import Mathlib.Tactic.Common
import PortfolioReports.Csv.Stream

namespace PortfolioReports

namespace CsvDialect

theorem patternText_error {pattern : String} {d : Calendar.Date} {t : Option Calendar.Clock} {f : Fault}
    (h : patternText pattern d t = .error f) : f = .render .pattern := by
  unfold patternText at h
  split at h
  · cases h
  · exact (Except.error.inj h).symm

theorem momentField_error {d : CsvDialect} {m : Calendar.Moment} {f : Fault}
    (h : d.momentField m = .error f) : f = .render .pattern := by
  simp only [momentField, bind, Except.bind] at h
  split at h
  · rename_i hdate
    cases h
    exact patternText_error hdate
  · split at h
    · cases h
    · split at h
      · rename_i htime
        cases h
        exact patternText_error htime
      · cases h

mutual

theorem cellText_error {d : CsvDialect} {f : Fault} :
    ∀ {c : Cell}, d.cellText c = .error f → f = .render .pattern
  | .null, h => by simp [cellText] at h
  | .bool _, h => by simp [cellText] at h
  | .int _, h => by simp [cellText] at h
  | .float _, h => by simp [cellText] at h
  | .text _, h => by simp [cellText] at h
  | .date _, h => patternText_error (by simpa only [cellText] using h)
  | .moment _, h => momentField_error (by simpa only [cellText] using h)
  | .list items, h => by
    cases hitems : d.cellTexts items with
    | error g =>
      simp only [cellText, hitems, Except.map, Except.error.injEq] at h
      exact h ▸ cellTexts_error hitems
    | ok texts => simp [cellText, hitems, Except.map] at h

theorem cellTexts_error {d : CsvDialect} {f : Fault} :
    ∀ {cs : List Cell}, d.cellTexts cs = .error f → f = .render .pattern
  | [], h => by simp [cellTexts] at h
  | c :: cs, h => by
    cases hc : d.cellText c with
    | error g =>
      simp only [cellTexts, hc, bind, Except.bind, Except.error.injEq] at h
      exact h ▸ cellText_error hc
    | ok text =>
      cases hcs : d.cellTexts cs with
      | error g =>
        simp only [cellTexts, hc, hcs, bind, Except.bind, Except.error.injEq] at h
        exact h ▸ cellTexts_error hcs
      | ok texts => simp [cellTexts, hc, hcs, bind, Except.bind, pure, Except.pure] at h

end

theorem fieldText_error {d : CsvDialect} {row : Row} {c : Column} {f : Fault}
    (h : d.fieldText row c = .error f) : f = .render .pattern := by
  unfold fieldText at h
  split at h
  · exact cellText_error h
  · cases h

theorem mapM_fieldText_error {d : CsvDialect} {row : Row} {columns : List Column} {f : Fault}
    (h : columns.mapM (d.fieldText row) = .error f) : f = .render .pattern := by
  induction columns with
  | nil => cases h
  | cons c columns ih =>
    simp only [List.mapM_cons, bind, Except.bind] at h
    split at h
    · rename_i hc
      cases h
      exact fieldText_error hc
    · split at h
      · rename_i hcs
        cases h
        exact ih hcs
      · cases h

theorem rowText_error {d : CsvDialect} {columns : List Column} {row : Row} {f : Fault}
    (h : d.rowText columns row = .error f) : f = .render .pattern := by
  simp only [rowText, bind, Except.bind] at h
  split at h
  · rename_i hfields
    cases h
    exact mapM_fieldText_error hfields
  · cases h

end CsvDialect

def CsvDialect.lines (d : CsvDialect) (columns : List Column) (rows : List Row) : Except Fault (List String) :=
  rows.mapM (d.rowText columns)

namespace CsvDialect

variable {d : CsvDialect} {columns : List Column} {rows : List Row} {r : Row}

theorem lines_append (d : CsvDialect) (columns : List Column) (rows rows' : List Row) :
    d.lines columns (rows ++ rows') =
      (d.lines columns rows).bind fun a => (d.lines columns rows').map fun b => a ++ b := by
  simp only [lines, List.mapM_append, bind, Except.bind]
  cases rows.mapM (d.rowText columns) with
  | error f => rfl
  | ok a => cases rows'.mapM (d.rowText columns) <;> rfl

theorem lines_cons (d : CsvDialect) (columns : List Column) (r : Row) (rows : List Row) :
    d.lines columns (r :: rows) =
      (d.rowText columns r).bind fun a => (d.lines columns rows).map fun b => a :: b := by
  simp only [lines, List.mapM_cons, bind, Except.bind]
  cases d.rowText columns r with
  | error f => rfl
  | ok a => cases rows.mapM (d.rowText columns) <;> rfl

theorem lines_concat {texts : List String} {text : String} (h : d.lines columns rows = .ok texts)
    (hr : d.rowText columns r = .ok text) : d.lines columns (rows ++ [r]) = .ok (texts ++ [text]) := by
  rw [lines_append, h, lines_cons, hr]
  rfl

theorem lines_error {texts : List String} {f : Fault} (h : d.lines columns rows = .ok texts)
    (hr : d.rowText columns r = .error f) (rest : List Row) :
    d.lines columns (rows ++ r :: rest) = .error f := by
  rw [lines_append, h, lines_cons, hr]
  rfl

theorem length_of_lines {texts : List String} (h : d.lines columns rows = .ok texts) :
    texts.length = rows.length := by
  induction rows generalizing texts with
  | nil => cases h; rfl
  | cons r rows ih =>
    rw [lines_cons] at h
    cases hr : d.rowText columns r with
    | error f => rw [hr] at h; cases h
    | ok text =>
      cases hrows : d.lines columns rows with
      | error f => rw [hr, hrows] at h; cases h
      | ok rest =>
        rw [hr, hrows] at h
        cases h
        simp [ih hrows]

end CsvDialect

namespace Column

theorem resolve_append (columns : List Column) {rows : List Row} (hrows : rows ≠ []) (rest : List Row) :
    resolve columns (rows ++ rest) = resolve columns rows := by
  cases rows with
  | nil => exact absurd rfl hrows
  | cons r rows => rfl

theorem resolve_of_ne_nil {columns : List Column} (h : columns ≠ []) (rows : List Row) :
    resolve columns rows = columns := by
  simp [resolve, h]

theorem resolve_resolve (columns : List Column) (rows rest : List Row) :
    resolve (resolve columns (rows ++ rest)) rows = resolve columns (rows ++ rest) := by
  cases columns with
  | cons c columns => rfl
  | nil =>
    cases rows with
    | nil =>
      cases h : resolve [] ([] ++ rest) with
      | nil => rfl
      | cons c columns => rfl
    | cons r rows => simp [resolve]

end Column

namespace CsvDialect

theorem encode_eq (d : CsvDialect) (rows : List Row) (columns : List Column) :
    d.encode rows columns = (d.lines (Column.resolve columns rows) rows).map
      (fun lines => d.headerOf (Column.resolve columns rows) ++ String.join lines) := by
  simp only [encode, lines, bind, Except.bind]
  cases rows.mapM (d.rowText (Column.resolve columns rows)) <;> rfl

theorem encode_resolve (d : CsvDialect) (rows : List Row) (columns : List Column) :
    d.encode rows (Column.resolve columns rows) = d.encode rows columns := by
  have hstay := Column.resolve_resolve columns rows []
  rw [List.append_nil] at hstay
  rw [encode_eq, encode_eq, hstay]

end CsvDialect

def fullRows (k : Nat) : Nat := rowsPerChunk * (k / rowsPerChunk)

theorem fullRows_le (k : Nat) : fullRows k ≤ k := Nat.mul_div_le k rowsPerChunk

def CsvDialect.fullChunks (d : CsvDialect) (columns : List Column) (texts : List String) : String :=
  d.headerOf columns ++ String.join (texts.take (fullRows texts.length))

namespace CsvStream

/-- A stream after it has taken rows, with their lines and the chunks that it has sent. -/
structure Took (d : CsvDialect) (columns : List Column) (rows : List Row) (texts : List String)
    (s : CsvStream) (chunks : List String) : Prop where
  dialect : s.dialect = d
  receiving : s.receiving = true
  columns? : s.columns? = if columns = [] ∧ rows = [] then none else some (Column.resolve columns rows)
  headerPending : s.headerPending = (d.includeHeader && decide (columns = [] ∧ rows = []))
  lines : d.lines (Column.resolve columns rows) rows = .ok texts
  written : s.written = rows.length
  heldCount : s.heldCount = rows.length % rowsPerChunk
  held : s.held.reverse = texts.drop (fullRows rows.length)
  sent : String.join chunks = d.fullChunks (Column.resolve columns rows) texts

variable {d : CsvDialect} {columns : List Column} {rows : List Row} {texts : List String} {s : CsvStream}
  {chunks : List String}

theorem columns_of_took (h : Took d columns rows texts s chunks) (r : Row) :
    s.columns?.getD (Column.ofRow r) = Column.resolve columns (rows ++ [r]) := by
  rw [h.columns?]
  split
  · rename_i hempty
    obtain ⟨rfl, rfl⟩ := hempty
    rfl
  · rename_i hfixed
    by_cases hrows : rows = []
    · have hc : columns ≠ [] := fun hc => hfixed ⟨hc, hrows⟩
      rw [Column.resolve_of_ne_nil hc, Column.resolve_of_ne_nil hc]
      rfl
    · rw [Column.resolve_append columns hrows]
      rfl

theorem header_of_took (h : Took d columns rows texts s chunks) (r : Row) :
    String.join (chunks ++ if s.headerPending && !(Column.resolve columns (rows ++ [r])).isEmpty then
      [d.header (Column.resolve columns (rows ++ [r]))] else []) =
    d.fullChunks (Column.resolve columns (rows ++ [r])) texts := by
  rw [String.join_append, h.sent, h.headerPending]
  by_cases hempty : columns = [] ∧ rows = []
  · obtain ⟨rfl, rfl⟩ := hempty
    obtain rfl : texts = [] := List.length_eq_zero_iff.mp (CsvDialect.length_of_lines h.lines)
    cases hh : d.includeHeader <;>
      by_cases hc : Column.resolve [] ([] ++ [r]) = [] <;>
      simp_all [CsvDialect.fullChunks, CsvDialect.headerOf, Column.resolve]
  · have hc : Column.resolve columns (rows ++ [r]) = Column.resolve columns rows := by
      by_cases hrows : rows = []
      · have hcolumns : columns ≠ [] := fun hcolumns => hempty ⟨hcolumns, hrows⟩
        rw [Column.resolve_of_ne_nil hcolumns, Column.resolve_of_ne_nil hcolumns]
      · exact Column.resolve_append columns hrows [r]
    simp [hempty, hc]

theorem push_took {s : CsvStream} (text : String) {sentRows : List String}
    (hreceiving : s.receiving = true) (hwritten : s.written = texts.length)
    (hcount : s.heldCount = texts.length % rowsPerChunk)
    (hheld : s.held.reverse = texts.drop (fullRows texts.length))
    (hsent : String.join sentRows = d.fullChunks columns texts) :
    ∃ s' sent, s.push text = (.running s', sent) ∧ s'.dialect = s.dialect ∧ s'.receiving = true ∧
      s'.columns? = s.columns? ∧ s'.headerPending = s.headerPending ∧ s'.written = texts.length + 1 ∧
      s'.heldCount = (texts.length + 1) % rowsPerChunk ∧
      s'.held.reverse = (texts ++ [text]).drop (fullRows (texts.length + 1)) ∧
      String.join (sentRows ++ sent) = d.fullChunks columns (texts ++ [text]) := by
  have hle := fullRows_le texts.length
  by_cases hfull : rowsPerChunk ≤ s.heldCount + 1
  · have hnext : fullRows (texts.length + 1) = texts.length + 1 := by
      simp only [fullRows, rowsPerChunk] at *; omega
    have hmod : (texts.length + 1) % rowsPerChunk = 0 := by
      simp only [rowsPerChunk] at *; omega
    have htake : (texts ++ [text]).take (texts.length + 1) = texts ++ [text] :=
      List.take_of_length_le (by simp)
    refine ⟨{ s with held := [], heldCount := 0, written := s.written + 1 },
      [String.join (text :: s.held).reverse], by simp [push, hfull, send, hreceiving, heldText], rfl, hreceiving, rfl,
      rfl, by simp [hwritten], by simp [hmod], by simp [hnext], ?_⟩
    calc String.join (sentRows ++ [String.join (text :: s.held).reverse])
        = d.headerOf columns ++ String.join (texts.take (fullRows texts.length)) ++
            (String.join (texts.drop (fullRows texts.length)) ++ text) := by
          simp [String.join_append, hsent, CsvDialect.fullChunks, hheld]
      _ = d.headerOf columns ++ (String.join texts ++ text) := by
          conv_rhs => rw [← List.take_append_drop (fullRows texts.length) texts, String.join_append]
          simp only [String.append_assoc]
      _ = d.fullChunks columns (texts ++ [text]) := by
          simp [CsvDialect.fullChunks, hnext, htake, String.join_append]
  · have hnext : fullRows (texts.length + 1) = fullRows texts.length := by
      simp only [fullRows, rowsPerChunk] at *; omega
    refine ⟨{ s with held := text :: s.held, heldCount := s.heldCount + 1, written := s.written + 1 }, [],
      by simp [push, hfull], rfl, hreceiving, rfl, rfl, by simp [hwritten], ?_, ?_, ?_⟩
    · simp only [hcount, rowsPerChunk] at *; omega
    · simp [hheld, hnext, List.drop_append_of_le_length hle]
    · simp [hsent, CsvDialect.fullChunks, hnext, List.take_append_of_le_length hle]

theorem lines_resolve_concat (h : Took d columns rows texts s chunks) (r : Row) :
    d.lines (Column.resolve columns (rows ++ [r])) rows = .ok texts := by
  by_cases hrows : rows = []
  · subst hrows
    have hl := h.lines
    simpa [CsvDialect.lines, pure, Except.pure] using hl
  · rw [Column.resolve_append columns hrows]
    exact h.lines

theorem takeRow_spec (h : Took d columns rows texts s chunks) (r : Row) :
    (∀ f, d.rowText (Column.resolve columns (rows ++ [r])) r = .error f →
      ∃ sent, s.takeRow r = (.ended (.error f), sent) ∧
        String.join (chunks ++ sent) = d.fullChunks (Column.resolve columns (rows ++ [r])) texts) ∧
    ∀ text, d.rowText (Column.resolve columns (rows ++ [r])) r = .ok text →
      ∃ s' sent, s.takeRow r = (.running s', sent) ∧
        Took d columns (rows ++ [r]) (texts ++ [text]) s' (chunks ++ sent) := by
  have hcolumns := columns_of_took h r
  have hheader := header_of_took h r
  have hlength := CsvDialect.length_of_lines h.lines
  generalize hc : Column.resolve columns (rows ++ [r]) = cols at hcolumns hheader ⊢
  -- the stream with its columns fixed, and what it has sent besides the chunks
  let s₁ : CsvStream := { s with columns? := some cols, headerPending := false }
  let headers := if s.headerPending && !cols.isEmpty then [d.header cols] else []
  have htake : s.takeRow r = ((s₁.pushRow cols r).1, headers ++ (s₁.pushRow cols r).2) := by
    cases hp : s.headerPending && !cols.isEmpty <;>
      simp [takeRow, hcolumns, hp, s₁, headers, send, h.receiving, h.dialect]
  have hlines : d.lines cols rows = .ok texts := hc ▸ lines_resolve_concat h r
  constructor
  · intro f hf
    have hpush : s₁.pushRow cols r = (.ended (.error f), []) := by simp [pushRow, s₁, h.dialect, hf]
    exact ⟨headers, by simp [htake, hpush], hheader⟩
  · intro text htext
    obtain ⟨s', sent, hpush, hdialect, hreceiving, hcols, hpending, hwritten, hcount, hheld, hsent⟩ :=
      push_took (s := s₁) text (by exact h.receiving) (by rw [hlength]; exact h.written)
        (by rw [hlength]; exact h.heldCount) (by rw [hlength]; exact h.held) hheader
    have hrow : s₁.pushRow cols r = (.running s', sent) := by simpa [pushRow, s₁, h.dialect, htext] using hpush
    refine ⟨s', headers ++ sent, by rw [htake, hrow], ?_⟩
    constructor
    · exact hdialect.trans h.dialect
    · exact hreceiving
    · simp [hcols, s₁, hc]
    · simp [hpending, s₁]
    · rw [hc]
      exact CsvDialect.lines_concat hlines htext
    · simp [hwritten, hlength]
    · simp [hcount, hlength]
    · simp [hheld, hlength]
    · rw [hc, ← List.append_assoc]
      exact hsent

theorem finish_spec (h : Took d columns rows texts s chunks) :
    ∃ sent, s.finish = (.ended (.ok rows.length), sent) ∧
      String.join (chunks ++ sent) = d.headerOf (Column.resolve columns rows) ++ String.join texts := by
  have hlength := CsvDialect.length_of_lines h.lines
  have hheld : s.heldText = String.join (texts.drop (fullRows texts.length)) := by
    rw [heldText, h.held, hlength]
  have hall : String.join (chunks ++ [s.heldText]) =
      d.headerOf (Column.resolve columns rows) ++ String.join texts := by
    conv_rhs => rw [← List.take_append_drop (fullRows texts.length) texts, String.join_append]
    simp [String.join_append, h.sent, CsvDialect.fullChunks, hheld, String.append_assoc]
  by_cases hempty : s.heldText.isEmpty = true
  · refine ⟨[], by simp [finish, hempty, h.written], ?_⟩
    have hnothing : s.heldText = "" := by simpa using hempty
    simpa [String.join_append, hnothing] using hall
  · exact ⟨[s.heldText], by simp [finish, hempty, send, h.receiving, h.written], hall⟩

end CsvStream

end PortfolioReports
