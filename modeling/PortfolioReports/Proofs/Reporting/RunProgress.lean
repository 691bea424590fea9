import PortfolioReports.Proofs.Reporting.RunStages

namespace PortfolioReports

open Calendar Call RunStage

namespace RunRequest

def checked (r : RunRequest) : Except Fault RunRequest := (StatementPair.of r.query).map fun _ => r

variable (r : RunRequest)

def processing : Execution := { Execution.pending r with status := .processing }

def completed (count : UInt64) (data : Rendering) : Execution :=
  { Execution.pending r with status := .completed }.succeeded r count data

def failed (cause : Fault) : Execution :=
  { Execution.pending r with status := .failed }.stopped cause.message r.endedAt

def cancelledAt (time : Moment) : Execution :=
  { Execution.pending r with status := .failed }.stopped Reporting.cancelledByUser time

structure Made (e : Execution) : Prop where
  id : e.id = r.id
  report? : e.report? = r.report?
  triggeredBy? : e.triggeredBy? = r.triggeredBy?
  format : e.format = r.format
  triggeredAt : e.triggeredAt = r.startedAt
  storable : e.Storable

structure Timely : Prop where
  startedAt : r.startedAt.Storable
  endedAt : r.endedAt.Storable

def Held (e : Execution) (cancelled : Prop) (rows : List ExecutionRow) : Prop :=
  (¬ cancelled ∧ rows = [.ofExecution e]) ∨
    (cancelled ∧ ∃ time : Moment, time.Storable ∧ rows = [.ofExecution (r.cancelledAt time)])

/-- How far an admitted run has come: what is left of its call, its fetch, and the rows of its execution. -/
inductive Stage (cancelled : Prop) (rows : List ExecutionRow) : Option FetchCourse → Call Answer → Prop where
  | entering {course? : Option FetchCourse} {queries : StatementPair} (hcancelled : ¬ cancelled)
      (hrows : rows = []) : Stage cancelled rows course? (entering r queries)
  | starting {course? : Option FetchCourse} {queries : StatementPair}
      (hheld : r.Held (.pending r) cancelled rows) : Stage cancelled rows course? (starting r queries)
  | fetching {course? : Option FetchCourse} {queries : StatementPair}
      (hheld : r.Held r.processing cancelled rows) : Stage cancelled rows course? (fetching r queries)
  | reading {fetched : Fetched} (hheld : r.Held r.processing cancelled rows) :
      Stage cancelled rows (some (.answered fetched)) (reading r fetched)
  | completing {fetched : Fetched} {data : Rendering} (hheld : r.Held r.processing cancelled rows) :
      Stage cancelled rows (some (.answered fetched)) (completing r fetched.count data)
  | givingUp {course? : Option FetchCourse} {cause : Fault} (hheld : r.Held r.processing cancelled rows) :
      Stage cancelled rows course? (givingUp r cause)
  | completed {fetched : Fetched} {data : Rendering} (hcancelled : ¬ cancelled)
      (hrows : rows = [.ofExecution (r.completed fetched.count data)]) :
      Stage cancelled rows (some (.answered fetched))
        (.done (.ok (.output ⟨r.completed fetched.count data, data⟩)))
  | failed {course? : Option FetchCourse} {f : Fault} (hheld : r.Held (r.failed f) cancelled rows) :
      Stage cancelled rows course? (.done (.error f))

variable {r : RunRequest}

theorem Timely.pending (h : r.Timely) : r.Made (.pending r) := ⟨rfl, rfl, rfl, rfl, rfl, h.startedAt, nofun⟩

theorem Timely.processing (h : r.Timely) : r.Made r.processing := ⟨rfl, rfl, rfl, rfl, rfl, h.startedAt, nofun⟩

theorem Timely.completed (h : r.Timely) (count : UInt64) (data : Rendering) : r.Made (r.completed count data) :=
  ⟨rfl, rfl, rfl, rfl, rfl, h.startedAt, fun _ ht => Option.some.inj ht ▸ h.endedAt⟩

theorem Timely.failed (h : r.Timely) (cause : Fault) : r.Made (r.failed cause) :=
  ⟨rfl, rfl, rfl, rfl, rfl, h.startedAt, fun _ ht => Option.some.inj ht ▸ h.endedAt⟩

theorem Timely.cancelledAt (h : r.Timely) {time : Moment} (htime : time.Storable) :
    r.Made (r.cancelledAt time) :=
  ⟨rfl, rfl, rfl, rfl, rfl, h.startedAt, fun _ ht => Option.some.inj ht ▸ htime⟩

variable {s : Store} {e : Execution} {status : ExecutionStatus} {apply : Execution → Execution}

theorem Made.change (he : r.Made e) (hrows : s.executionsOf r.id = [.ofExecution e])
    (hallowed : e.status.canBecome status = true) :
    s.statusChange r.id status apply = .ok (apply { e with status }) := by
  rw [Store.statusChange_of_singleton hrows he.storable, ExecutionStatus.checkBecomes, if_pos hallowed]
  rfl

theorem Made.refuse (he : r.Made e) (hrows : s.executionsOf r.id = [.ofExecution e])
    (hrefused : e.status.canBecome status = false) :
    s.statusChange r.id status apply = .error (.invalidTransition e.status status) := by
  rw [Store.statusChange_of_singleton hrows he.storable, ExecutionStatus.checkBecomes,
    if_neg (by simp [hrefused])]
  rfl

theorem Made.of_change {x : Execution} (he : r.Made e) (hrows : s.executionsOf r.id = [.ofExecution e])
    (hx : s.statusChange r.id status apply = .ok x) :
    e.status.canBecome status = true ∧ x = apply { e with status } := by
  cases hallowed : e.status.canBecome status with
  | true =>
    rw [he.change hrows hallowed] at hx
    exact ⟨rfl, (Except.ok.inj hx).symm⟩
  | false =>
    rw [he.refuse hrows hallowed] at hx
    cases hx

theorem Made.update {e' : Execution} (he : r.Made e) (he' : r.Made e')
    (hrows : s.executionsOf r.id = [.ofExecution e]) :
    (s.updateExecution e').1.executionsOf r.id = [.ofExecution e'] := by
  rw [Store.executionsOf_updateExecution, if_pos he'.id, hrows, List.map_singleton,
    ExecutionRow.updateFrom_ofExecution (he'.id.trans he.id.symm) (he'.report?.trans he.report?.symm)
      (he'.triggeredBy?.trans he.triggeredBy?.symm) (he'.format.trans he.format.symm)
      (he'.triggeredAt.trans he.triggeredAt.symm)]

theorem Held.change {cancelled : Prop} (hr : r.Timely) (status : ExecutionStatus)
    (apply : Execution → Execution)
    (he : r.Made e) (he' : r.Made (apply { e with status })) (hallowed : e.status.canBecome status = true)
    (hfinal : ExecutionStatus.failed.canBecome status = false)
    (hheld : r.Held e cancelled (s.executionsOf r.id)) :
    (¬ cancelled ∧ s.statusChange r.id status apply = .ok (apply { e with status }) ∧
      (s.updateExecution (apply { e with status })).1.executionsOf r.id =
        [.ofExecution (apply { e with status })]) ∨
    (cancelled ∧ s.statusChange r.id status apply = .error (.invalidTransition .failed status) ∧
      ∃ time : Moment, time.Storable ∧ s.executionsOf r.id = [.ofExecution (r.cancelledAt time)]) := by
  rcases hheld with ⟨hnot, hrows⟩ | ⟨hcancelled, time, htime, hrows⟩
  · exact .inl ⟨hnot, he.change hrows hallowed, he.update he' hrows⟩
  · exact .inr ⟨hcancelled, (hr.cancelledAt htime).refuse hrows hfinal, time, htime, hrows⟩

theorem Held.cancel {cancelled : Prop} {time : Moment} {x : Execution} (hr : r.Timely) (htime : time.Storable)
    (he : r.Made e) (hmark : e.status.canBecome .failed = true →
      { e with status := .failed }.stopped Reporting.cancelledByUser time = r.cancelledAt time)
    (hheld : r.Held e cancelled (s.executionsOf r.id))
    (hx : s.statusChange r.id .failed (fun e => e.stopped Reporting.cancelledByUser time) = .ok x) :
    ∃ time : Moment, time.Storable ∧
      (s.updateExecution x).1.executionsOf r.id = [.ofExecution (r.cancelledAt time)] := by
  rcases hheld with ⟨-, hrows⟩ | ⟨-, t, ht, hrows⟩
  · obtain ⟨hallowed, rfl⟩ := he.of_change hrows hx
    rw [hmark hallowed]
    exact ⟨time, htime, he.update (hr.cancelledAt htime) hrows⟩
  · exact absurd ((hr.cancelledAt ht).of_change hrows hx).1 Bool.false_ne_true

variable {cancelled : Prop} {course? : Option FetchCourse} {call : Call Answer}

theorem Stage.cancel {time : Moment} {x : Execution} (hr : r.Timely) (htime : time.Storable)
    (h : r.Stage cancelled (s.executionsOf r.id) course? call)
    (hx : s.statusChange r.id .failed (fun e => e.stopped Reporting.cancelledByUser time) = .ok x) :
    r.Stage True ((s.updateExecution x).1.executionsOf r.id) course? call := by
  cases h with
  | entering _ hrows =>
    rw [Store.statusChange_of_nil hrows] at hx
    cases hx
  | starting hheld => exact .starting (.inr ⟨trivial, hheld.cancel hr htime hr.pending (fun _ => rfl) hx⟩)
  | fetching hheld => exact .fetching (.inr ⟨trivial, hheld.cancel hr htime hr.processing (fun _ => rfl) hx⟩)
  | reading hheld => exact .reading (.inr ⟨trivial, hheld.cancel hr htime hr.processing (fun _ => rfl) hx⟩)
  | completing hheld => exact .completing (.inr ⟨trivial, hheld.cancel hr htime hr.processing (fun _ => rfl) hx⟩)
  | givingUp hheld => exact .givingUp (.inr ⟨trivial, hheld.cancel hr htime hr.processing (fun _ => rfl) hx⟩)
  | completed _ hrows => exact absurd ((hr.completed _ _).of_change hrows hx).1 Bool.false_ne_true
  | @failed _ f hheld =>
    have hfinal : (r.failed f).status.canBecome .failed = false := rfl
    exact .failed (.inr ⟨trivial, hheld.cancel hr htime (hr.failed f) (by simp [hfinal]) hx⟩)

theorem Stage.turn (hr : r.Timely) (hparent : ∀ u, r.report? = some u → s.hasReport u.toText = true)
    (h : r.Stage cancelled (s.executionsOf r.id) course? call) :
    r.Stage cancelled ((call.turn .statusChange s).1.executionsOf r.id) course?
      (call.turn .statusChange s).2 := by
  cases h with
  | @entering _ queries hcancelled hrows =>
    have hput := Store.insertExecution_of_fresh (e := .pending r) hrows hparent
    have hturn : (RunStage.entering r queries).turn .statusChange s =
        ({ s with executions := s.executions ++ [ExecutionRow.ofExecution (.pending r)] },
          RunStage.starting r queries) := by
      simp only [RunStage.entering, Call.turn, hput]
      rfl
    have hnew := s.executionsOf_append (.pending r) r.id
    rw [hrows, if_pos (show (Execution.pending r).id = r.id from rfl), List.nil_append] at hnew
    rw [hturn]
    exact .starting (.inl ⟨hcancelled, hnew⟩)
  | @starting _ queries hheld =>
    rcases hheld.change hr .processing (fun e => e) hr.pending hr.processing rfl rfl with
      ⟨hnot, hchange, hrows⟩ | ⟨hcancelled, hchange, hrows⟩
    · rw [RunStage.starting, turn_changing_ok hchange]
      exact .fetching (.inl ⟨hnot, hrows⟩)
    · rw [RunStage.starting, turn_changing_error hchange]
      exact .failed (.inr ⟨hcancelled, hrows⟩)
  | fetching hheld => exact .fetching hheld
  | @reading fetched hheld =>
    simp only [RunStage.reading, Call.turn]
    cases r.rendered fetched s with
    | error cause => exact .givingUp hheld
    | ok data => exact .completing hheld
  | @completing fetched data hheld =>
    rcases hheld.change hr .completed (fun e => e.succeeded r fetched.count data) hr.processing
      (hr.completed _ _) rfl rfl with ⟨hnot, hchange, hrows⟩ | ⟨hcancelled, hchange, hrows⟩
    · rw [RunStage.completing, turn_changing_ok hchange]
      exact .completed hnot hrows
    · rw [RunStage.completing, turn_changing_error hchange]
      exact .failed (.inr ⟨hcancelled, hrows⟩)
  | @givingUp _ cause hheld =>
    rcases hheld.change hr .failed (fun e => e.stopped cause.message r.endedAt) hr.processing
      (hr.failed cause) rfl rfl with ⟨hnot, hchange, hrows⟩ | ⟨hcancelled, hchange, hrows⟩
    · rw [RunStage.givingUp, turn_changing_ok hchange]
      exact .failed (.inl ⟨hnot, hrows⟩)
    · rw [RunStage.givingUp, turn_changing_error hchange]
      exact .failed (.inr ⟨hcancelled, hrows⟩)
  | completed hcancelled hrows => exact .completed hcancelled hrows
  | failed hheld => exact .failed hheld

theorem Stage.answer {queries : StatementPair} {next : FetchCourse → Call Answer} {rows : List ExecutionRow}
    (h : r.Stage cancelled rows course? (.fetch queries next)) (course : FetchCourse) :
    r.Stage cancelled rows (some course) (next course) := by
  cases h with
  | fetching hheld =>
    cases course with
    | answered fetched => exact .reading hheld
    | notBegun => exact .givingUp hheld
    | refused cause => exact .givingUp hheld
    | interrupted => exact .givingUp hheld
    | failed cause => exact .givingUp hheld

theorem checked_cases (r : RunRequest) :
    (∃ f, r.checked = .error f ∧ admitting r = .done (.error f)) ∨
      ∃ queries, r.checked = .ok r ∧ admitting r = RunStage.entering r queries := by
  unfold checked admitting
  cases StatementPair.of r.query with
  | error f => exact .inl ⟨f, rfl, rfl⟩
  | ok queries => exact .inr ⟨queries, rfl, rfl⟩

end RunRequest

end PortfolioReports
