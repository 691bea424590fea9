import Mathlib.Data.List.Induction
import PortfolioReports.Csv.Task
import PortfolioReports.Proofs.Csv.Stream

namespace PortfolioReports

namespace StreamTask

/-- The rows that no longer wait after an event. -/
def takenBy (t : StreamTask) (e : TaskEvent) : List Row :=
  t.waiting.take (t.waiting.length - (t.step e).waiting.length)

def taken (t : StreamTask) : List TaskEvent → List Row
  | [] => []
  | e :: events => t.takenBy e ++ (t.step e).taken events

inductive Failed (d : CsvDialect) (columns : List Column) (taken : List Row) (t : StreamTask) : Fault → Prop where
  | cancelled {texts : List String} (hsignal : t.signal = .fired)
      (hlines : d.lines (Column.resolve columns taken) taken = .ok texts)
      (hsent : String.join t.chunks = d.fullChunks (Column.resolve columns taken) texts) :
      Failed d columns taken t .cancelled
  | row {before : List Row} {r : Row} {texts : List String} {f : Fault} (htaken : taken = before ++ [r])
      (hlines : d.lines (Column.resolve columns taken) before = .ok texts)
      (hrow : d.rowText (Column.resolve columns taken) r = .error f)
      (hsent : String.join t.chunks = d.fullChunks (Column.resolve columns taken) texts) :
      Failed d columns taken t f

def Faithful (d : CsvDialect) (columns : List Column) (rows taken : List Row) (t : StreamTask) : Prop :=
  match t.status with
  | .running s => rows = taken ++ t.waiting ∧ ∃ texts, CsvStream.Took d columns taken texts s t.chunks
  | .ended (.ok n) => t.inputClosed = true ∧ taken = rows ∧ n = rows.length ∧
      d.encode rows columns = .ok (String.join t.chunks)
  | .ended (.error f) => taken <+: rows ∧ Failed d columns taken t f

variable {d : CsvDialect} {columns : List Column} {rows taken : List Row} {t : StreamTask}

theorem Failed.of_same {f : Fault} (h : Failed d columns taken t f) {t' : StreamTask}
    (hchunks : t'.chunks = t.chunks) (hsignal : t.signal = .fired → t'.signal = .fired) :
    Failed d columns taken t' f := by
  cases h with
  | cancelled hfired hlines hsent => exact .cancelled (hsignal hfired) hlines (hchunks ▸ hsent)
  | row htaken hlines hrow hsent => exact .row htaken hlines hrow (hchunks ▸ hsent)

theorem Faithful.of_same {t' : StreamTask} (h : Faithful d columns rows taken t) (hstatus : t'.status = t.status)
    (hchunks : t'.chunks = t.chunks) (hwaiting : t'.waiting = t.waiting)
    (hclosed : t.inputClosed = true → t'.inputClosed = true)
    (hsignal : t.signal = .fired → t'.signal = .fired) :
    Faithful d columns rows taken t' := by
  unfold Faithful at h ⊢
  rw [hstatus]
  cases hs : t.status with
  | running s => simpa [hs, hchunks, hwaiting] using h
  | ended result =>
    cases result with
    | ok n =>
      simp only [hs] at h
      exact ⟨hclosed h.1, h.2.1, h.2.2.1, hchunks ▸ h.2.2.2⟩
    | error f =>
      simp only [hs] at h
      exact ⟨h.1, h.2.of_same hchunks hsignal⟩

theorem Faithful.arrive (h : Faithful d columns rows taken t) (hopen : t.inputClosed = false) (r : Row) :
    Faithful d columns (rows ++ [r]) taken (t.step (.arrive r)) := by
  cases hs : t.status with
  | running s =>
    have hisOpen : t.isOpen = true := by simp [isOpen, hopen, hs, StreamStatus.isEnded]
    simp only [Faithful, hs] at h
    obtain ⟨hrows, htook⟩ := h
    simp only [Faithful, step, hisOpen, if_true, hs]
    exact ⟨by simp [hrows], htook⟩
  | ended result =>
    have hisOpen : t.isOpen = false := by simp [isOpen, hs, StreamStatus.isEnded]
    simp only [Faithful, hs, step, hisOpen, Bool.false_eq_true, if_false] at h ⊢
    cases result with
    | ok n =>
      have hclosed := h.1
      rw [hopen] at hclosed
      cases hclosed
    | error f => exact ⟨h.1.trans (List.prefix_append rows [r]), h.2⟩

section Turn

variable {s : CsvStream} (hs : t.status = .running s)

include hs

theorem turn_of_fired (hfired : t.signal = .fired) : t.turn =
    { t with status := .ended (.error .cancelled) } := by
  simp [StreamTask.turn, hs, StreamStatus.isEnded, hfired, react, StreamStatus.step, CsvStream.step]

theorem turn_of_waiting (hfired : t.signal ≠ .fired) {r : Row} {rest : List Row}
    (hwaiting : t.waiting = r :: rest) :
    t.turn = { t with
      status := (s.takeRow r).1, waiting := rest, chunks := t.chunks ++ (s.takeRow r).2 } := by
  simp [StreamTask.turn, hs, StreamStatus.isEnded, hfired, hwaiting, react, StreamStatus.step, CsvStream.step]

theorem turn_of_closed (hfired : t.signal ≠ .fired) (hwaiting : t.waiting = [])
    (hclosed : t.inputClosed = true) :
    t.turn = { t with status := s.finish.1, chunks := t.chunks ++ s.finish.2 } := by
  simp [StreamTask.turn, hs, StreamStatus.isEnded, hfired, hwaiting, hclosed, react, StreamStatus.step,
    CsvStream.step]

theorem turn_of_idle (hfired : t.signal ≠ .fired) (hwaiting : t.waiting = []) (hopen : t.inputClosed = false) :
    t.turn = t := by
  simp [StreamTask.turn, hs, StreamStatus.isEnded, hfired, hwaiting, hopen]

end Turn

theorem turn_of_ended {result : Except Fault Nat} (hs : t.status = .ended result) : t.turn = t := by
  simp [StreamTask.turn, hs, StreamStatus.isEnded]

theorem takenBy_of_waiting_eq {e : TaskEvent} (h : (t.step e).waiting = t.waiting) : t.takenBy e = [] := by
  rw [takenBy, h, Nat.sub_self, List.take_zero]

theorem takenBy_turn {s : CsvStream} (hs : t.status = .running s) (hfired : t.signal ≠ .fired) {r : Row}
    {rest : List Row} (hwaiting : t.waiting = r :: rest) : t.takenBy .turn = [r] := by
  have hrest : (t.step .turn).waiting = rest := congrArg StreamTask.waiting (turn_of_waiting hs hfired hwaiting)
  rw [takenBy, hrest, hwaiting, List.length_cons, Nat.add_sub_cancel_left]
  rfl

theorem Faithful.turn (h : Faithful d columns rows taken t) :
    Faithful d columns rows (taken ++ t.takenBy .turn) t.turn := by
  have hnone : t.turn.waiting = t.waiting → taken ++ t.takenBy .turn = taken := fun hsame => by
    rw [takenBy_of_waiting_eq (t := t) (e := .turn) hsame, List.append_nil]
  cases hs : t.status with
  | ended result =>
    rw [hnone (by rw [turn_of_ended hs])]
    rwa [turn_of_ended hs]
  | running s =>
    have hrun := h
    simp only [Faithful, hs] at hrun
    obtain ⟨hrows, texts, htook⟩ := hrun
    by_cases hfired : t.signal = .fired
    · rw [hnone (by rw [turn_of_fired hs hfired]), turn_of_fired hs hfired]
      exact ⟨⟨_, hrows.symm⟩, .cancelled hfired htook.lines htook.sent⟩
    cases hwaiting : t.waiting with
    | nil =>
      rw [hwaiting, List.append_nil] at hrows
      cases hclosed : t.inputClosed with
      | false =>
        rw [hnone (by rw [turn_of_idle hs hfired hwaiting hclosed])]
        rwa [turn_of_idle hs hfired hwaiting hclosed]
      | true =>
        obtain ⟨sent, hfinish, hjoin⟩ := CsvStream.finish_spec htook
        rw [hnone (by rw [turn_of_closed hs hfired hwaiting hclosed]), turn_of_closed hs hfired hwaiting hclosed,
          hfinish]
        refine ⟨hclosed, hrows.symm, by rw [hrows], ?_⟩
        rw [CsvDialect.encode_eq, hrows, htook.lines, hjoin]
        rfl
    | cons r rest =>
      obtain ⟨hbad, hgood⟩ := CsvStream.takeRow_spec htook r
      rw [hwaiting, List.append_cons] at hrows
      rw [takenBy_turn hs hfired hwaiting, turn_of_waiting hs hfired hwaiting]
      cases hr : d.rowText (Column.resolve columns (taken ++ [r])) r with
      | error f =>
        obtain ⟨sent, htake, hjoin⟩ := hbad f hr
        rw [htake]
        exact ⟨⟨_, hrows.symm⟩, .row rfl (CsvStream.lines_resolve_concat htook r) hr hjoin⟩
      | ok text =>
        obtain ⟨s', sent, htake, htook'⟩ := hgood text hr
        rw [htake]
        exact ⟨hrows, texts ++ [text], htook'⟩

theorem run_append (t : StreamTask) (events events' : List TaskEvent) :
    t.run (events ++ events') = (t.run events).run events' := List.foldl_append

theorem run_concat (t : StreamTask) (events : List TaskEvent) (e : TaskEvent) :
    t.run (events ++ [e]) = (t.run events).step e := t.run_append events [e]

theorem Failed.encode {f : Fault} (h : Failed d columns taken t f) (hsignal : t.signal ≠ .fired)
    (hstart : taken <+: rows) : d.encode rows columns = .error f := by
  obtain ⟨rest, rfl⟩ := hstart
  cases h with
  | cancelled hfired => exact absurd hfired hsignal
  | @row before r texts f htaken hlines hrow hsent =>
    have hne : taken ≠ [] := by simp [htaken]
    rw [CsvDialect.encode_eq, Column.resolve_append columns hne]
    have hrows : taken ++ rest = before ++ r :: rest := by simp [htaken]
    rw [hrows, CsvDialect.lines_error hlines hrow]
    rfl

theorem Faithful.outcome (h : Faithful d columns rows taken t) (hsignal : t.signal ≠ .fired)
    {result : Except Fault Nat} (hs : t.status = .ended result) :
    (∀ text, d.encode rows columns = .ok text →
      t.status = .ended (.ok rows.length) ∧ String.join t.chunks = text) ∧
    ∀ f, d.encode rows columns = .error f → t.status = .ended (.error f) := by
  simp only [Faithful, hs] at h
  cases result with
  | ok n =>
    obtain ⟨-, -, rfl, hencode⟩ := h
    rw [hencode]
    exact ⟨fun text htext => ⟨hs, Except.ok.inj htext⟩, fun f hf => by cases hf⟩
  | error f =>
    rw [h.2.encode hsignal h.1]
    exact ⟨fun text htext => (nomatch htext), fun f' hf => by rw [hs, Except.error.inj hf]⟩

/-- Of the rows that were taken `k` were written: all of them, or all but the last one, which cannot be written. -/
structure Failed.Sent (d : CsvDialect) (columns : List Column) (taken : List Row) (t : StreamTask) (f : Fault)
    (k : Nat) (texts : List String) : Prop where
  lines : d.lines (Column.resolve columns taken) (taken.take k) = .ok texts
  chunks : String.join t.chunks =
    d.headerOf (Column.resolve columns taken) ++ String.join (texts.take (1000 * (k / 1000)))
  cause : (f = .cancelled ∧ t.signal = .fired ∧ k = taken.length) ∨
    (f = .render .pattern ∧ k + 1 = taken.length ∧
      ∃ r, taken[k]? = some r ∧ d.rowText (Column.resolve columns taken) r = .error f)

theorem Failed.sent {f : Fault} (h : Failed d columns taken t f) :
    ∃ k texts, Failed.Sent d columns taken t f k texts := by
  cases h with
  | @cancelled texts hfired hlines hsent =>
    have hlength := CsvDialect.length_of_lines hlines
    refine ⟨taken.length, texts, ?_⟩
    constructor
    · rw [List.take_length, hlines]
    · rw [hsent, CsvDialect.fullChunks, hlength, fullRows, rowsPerChunk]
    · exact .inl ⟨rfl, hfired, rfl⟩
  | @row before r texts f htaken hlines hrow hsent =>
    have hlength := CsvDialect.length_of_lines hlines
    refine ⟨before.length, texts, ?_⟩
    constructor
    · have htake : taken.take before.length = before := by simp [htaken]
      rw [htake, hlines]
    · rw [hsent, CsvDialect.fullChunks, hlength, fullRows, rowsPerChunk]
    · exact .inr ⟨CsvDialect.rowText_error hrow, by simp [htaken], r, by simp [htaken], hrow⟩

namespace Failed.Sent

variable {f : Fault} {k : Nat} {texts : List String}

theorem encode_eq (h : Failed.Sent d columns taken t f k texts) (hfixed : f = .cancelled ∨ k ≠ 0 ∨ columns ≠ []) :
    d.encode (taken.take k) columns = d.encode (taken.take k) (Column.resolve columns taken) := by
  have hcols : Column.resolve columns taken = Column.resolve columns (taken.take k) := by
    rcases h.cause with ⟨-, -, rfl⟩ | ⟨hpattern, hk, -⟩
    · rw [List.take_length]
    · obtain hcancel | hne | hcolumns := hfixed
      · exact nomatch hcancel.symm.trans hpattern
      · have hwritten : taken.take k ≠ [] := by
          rw [Ne, List.take_eq_nil_iff, ← List.length_eq_zero_iff]
          omega
        have hsame := Column.resolve_append columns hwritten (taken.drop k)
        rwa [List.take_append_drop] at hsame
      · rw [Column.resolve_of_ne_nil hcolumns, Column.resolve_of_ne_nil hcolumns]
  rw [hcols, CsvDialect.encode_resolve]

end Failed.Sent

end StreamTask

end PortfolioReports
