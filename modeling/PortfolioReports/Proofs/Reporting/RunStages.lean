import PortfolioReports.Proofs.Reporting.Interleaving
import PortfolioReports.Proofs.Store.Executions

/-!
Each stage of a run is what is left to do of the call.
-/

namespace PortfolioReports

def Store.statusChange (s : Store) (id : Uuid) (status : ExecutionStatus) (apply : Execution → Execution) :
    Except Fault Execution :=
  match s.getExecution id with
  | .error cause => .error (.database cause)
  | .ok none => .error (.notFound (.execution id))
  | .ok (some e) => (e.status.checkBecomes status).map fun _ => apply { e with status }

theorem ExecutionStatus.checkBecomes_cases (a b : ExecutionStatus) :
    a.canBecome b = true ∧ a.checkBecomes b = .ok () ∨
      a.canBecome b = false ∧ a.checkBecomes b = .error (.invalidTransition a b) := by
  unfold checkBecomes
  cases h : a.canBecome b with
  | true => exact .inl ⟨rfl, rfl⟩
  | false => exact .inr ⟨rfl, rfl⟩

namespace Store

variable {s : Store} {id : Uuid} {status : ExecutionStatus} {apply : Execution → Execution} {e : Execution}

theorem statusChange_of_nil (h : s.executionsOf id = []) :
    s.statusChange id status apply = .error (.notFound (.execution id)) := by
  rw [statusChange, getExecution_of_nil h]

theorem statusChange_of_singleton (h : s.executionsOf id = [.ofExecution e]) (he : e.Storable) :
    s.statusChange id status apply = (e.status.checkBecomes status).map fun _ => apply { e with status } := by
  rw [statusChange, getExecution_of_singleton h he]

theorem of_statusChange {e' : Execution} (h : s.statusChange id status apply = .ok e') :
    ∃ e, s.getExecution id = .ok (some e) ∧ e.id = id ∧ e.status.canBecome status = true ∧
      e' = apply { e with status } := by
  unfold statusChange at h
  split at h
  · cases h
  · cases h
  · rename_i e hread
    cases e.status.checkBecomes_cases status with
    | inl hallowed =>
      rw [hallowed.2] at h
      exact ⟨e, hread, id_of_getExecution hread, hallowed.1, (Except.ok.inj h).symm⟩
    | inr hrefused =>
      rw [hrefused.2] at h
      cases h

end Store

namespace Call

variable {β : Type}

theorem map_bind {α γ : Type} (f : β → γ) (x : Call α) (k : α → Call β) :
    (f <$> (x >>= k)) = x >>= fun a => f <$> k a := by
  induction x with
  | done result => cases result <;> rfl
  | access kind change next ih => exact congrArg (Call.access kind change) (funext ih)
  | fetch queries next ih => exact congrArg (Call.fetch queries) (funext ih)

def changing (id : Uuid) (status : ExecutionStatus) (apply : Execution → Execution)
    (k : Except Fault Execution → Call β) : Call β :=
  .access (.read .executions) (fun s => s) fun s =>
    match s.statusChange id status apply with
    | .error f => k (.error f)
    | .ok e => .access .write (fun s => (s.updateExecution e).1) fun _ => k (.ok e)

inductive Writes (e : Execution) : Call β → Prop where
  | intro (kind : AccessKind) (next : Store → Call β) :
      Writes e (.access kind (fun s => (s.updateExecution e).1) next)

variable {id : Uuid} {status : ExecutionStatus} {apply : Execution → Execution}
  {k : Except Fault Execution → Call β} {s : Store}

theorem turn_changing_error {f : Fault} (h : s.statusChange id status apply = .error f) :
    (changing id status apply k).turn .statusChange s = (k (.error f)).write s := by
  simp only [changing, turn, h]

theorem turn_changing_ok {e : Execution} (h : s.statusChange id status apply = .ok e) :
    (changing id status apply k).turn .statusChange s = ((s.updateExecution e).1, k (.ok e)) := by
  simp only [changing, turn, h, write]

end Call

namespace Reporting

open Call

variable {β : Type} (id : Uuid) (status : ExecutionStatus) (apply : Execution → Execution)

theorem transition_eq : transition id status apply = changing id status apply .done := by
  have hbind : transition id status apply = .access (.read .executions) (fun s => s) fun s =>
      ((ofStore (s.getExecution id)).bind (found (.execution id))).bind fun e =>
        (check (e.status.checkBecomes status)).bind fun _ =>
          (change fun s => s.updateExecution (apply { e with status })).bind fun _ =>
            .done (.ok (apply { e with status })) := rfl
  rw [hbind, changing]
  congr 1
  funext s
  unfold Store.statusChange
  cases s.getExecution id with
  | error cause => rfl
  | ok e? =>
    cases e? with
    | none => rfl
    | some e =>
      cases he : e.status.checkBecomes status with
      | error f => simp only [he, ofStore, Call.bind, found, check, Except.map]
      | ok _ =>
        simp only [he, ofStore, Call.bind, found, check, Except.map]
        rfl

theorem bind_changing {γ : Type} (k : Except Fault Execution → Call β) (k' : β → Call γ) :
    (changing id status apply k >>= k') = changing id status apply fun r => k r >>= k' := by
  have hbind : (changing id status apply k >>= k') = .access (.read .executions) (fun s => s) fun s =>
      (match s.statusChange id status apply with
        | .error f => k (.error f)
        | .ok e => .access .write (fun s => (s.updateExecution e).1) fun _ => k (.ok e)).bind k' := rfl
  rw [hbind, changing]
  congr 1
  funext s
  cases s.statusChange id status apply <;> rfl

theorem attempt_changing (k : Except Fault Execution → Call β) :
    (changing id status apply k).attempt = changing id status apply fun r => (k r).attempt := by
  have hattempt : (changing id status apply k).attempt = .access (.read .executions) (fun s => s) fun s =>
      (match s.statusChange id status apply with
        | .error f => k (.error f)
        | .ok e => .access .write (fun s => (s.updateExecution e).1) fun _ => k (.ok e)).attempt := rfl
  rw [hattempt, changing]
  congr 1
  funext s
  cases s.statusChange id status apply <;> rfl

theorem map_changing {γ : Type} (f : β → γ) (k : Except Fault Execution → Call β) :
    (f <$> changing id status apply k) = changing id status apply fun r => f <$> k r :=
  bind_changing id status apply k _

end Reporting

open Calendar Call

def RunRequest.rendered (r : RunRequest) (fetched : Fetched) (s : Store) : Except Fault Rendering :=
  (Settings.ofPairs s.settings).bind fun settings =>
    settings.render r.format ⟨r.title, r.description?, r.endedAt⟩ fetched.rows r.query.columns

namespace RunStage

open Reporting

def givingUp (r : RunRequest) (cause : Fault) : Call Answer :=
  changing r.id .failed (fun e => e.stopped cause.message r.endedAt) fun _ => .done (.error cause)

def completing (r : RunRequest) (count : UInt64) (data : Rendering) : Call Answer :=
  changing r.id .completed (fun e => e.succeeded r count data) fun
    | .ok e => .done (.ok (.output ⟨e, data⟩))
    | .error f => .done (.error (completionFault f))

def reading (r : RunRequest) (fetched : Fetched) : Call Answer :=
  .access (.read .settings) (fun s => s) fun s =>
    match r.rendered fetched s with
    | .ok data => completing r fetched.count data
    | .error cause => givingUp r cause

def fetching (r : RunRequest) (queries : StatementPair) : Call Answer :=
  .fetch queries fun c =>
    match c.result with
    | .ok fetched => reading r fetched
    | .error cause => givingUp r cause

def starting (r : RunRequest) (queries : StatementPair) : Call Answer :=
  changing r.id .processing (fun e => e) fun
    | .ok _ => fetching r queries
    | .error f => .done (.error f)

def entering (r : RunRequest) (queries : StatementPair) : Call Answer :=
  .access .write (fun s => (s.insertExecution (.pending r)).toOption.getD s) fun s =>
    match s.insertExecution (.pending r) with
    | .ok _ => starting r queries
    | .error cause => .done (.error (.database cause))

def admitting (r : RunRequest) : Call Answer :=
  match StatementPair.of r.query with
  | .ok queries => entering r queries
  | .error f => .done (.error f)

def ofReport (format : ExportFormat) (agent? : Option Uuid) (c : CallSetting) (report : Report) :
    RunRequest :=
  ⟨c.fresh, some report.id, report.name, report.description?, report.query, format, agent?, c.now, c.now, c.formats⟩

def looking (id : Uuid) (format : ExportFormat) (agent? : Option Uuid) (c : CallSetting) : Call Answer :=
  .access (.read .reports) (fun s => s) fun s =>
    match s.getReport id with
    | .ok (some report) => admitting (ofReport format agent? c report)
    | .ok none => .done (.error (.notFound (.report id)))
    | .error cause => .done (.error (.database cause))

theorem map_giveUp (r : RunRequest) (cause : Fault) : Answer.output <$> giveUp r cause = givingUp r cause := by
  have hgive : giveUp r cause =
      (transition r.id .failed fun e => e.stopped cause.message r.endedAt).attempt >>= fun _ => fail cause := rfl
  rw [hgive, transition_eq, attempt_changing, bind_changing, map_changing]
  rfl

theorem map_complete (r : RunRequest) (count : UInt64) (data : Rendering) :
    Answer.output <$> complete r count data = completing r count data := by
  have hcomplete : complete r count data =
      (transition r.id .completed fun e => e.succeeded r count data).attempt >>= fun
        | .ok e => pure ⟨e, data⟩
        | .error f => fail (completionFault f) := rfl
  rw [hcomplete, transition_eq, attempt_changing, bind_changing, map_changing, completing]
  congr 1
  funext result
  cases result <;> rfl

def concluding (r : RunRequest) : Except Fault (UInt64 × Rendering) → Call Answer
  | .ok (count, data) => completing r count data
  | .error cause => givingUp r cause

theorem attempt_produce (r : RunRequest) (queries : StatementPair) :
    ((produce r queries).attempt >>= concluding r) = fetching r queries := by
  have hproduce : ((produce r queries).attempt >>= concluding r) = .fetch queries fun c =>
      (((Call.done c.result).bind fun fetched => getSettings.bind fun settings =>
        (check (settings.render r.format ⟨r.title, r.description?, r.endedAt⟩ fetched.rows r.query.columns)).bind
          fun data => Call.done (.ok (fetched.count, data))).attempt).bind (concluding r) := rfl
  rw [hproduce, fetching]
  congr 1
  funext c
  cases c.result with
  | error cause => rfl
  | ok fetched =>
    refine congrArg (Call.access (.read .settings) id) (funext fun s => ?_)
    simp only [RunRequest.rendered, ofStore, Call.bind, check]
    cases Settings.ofPairs s.settings with
    | error cause => rfl
    | ok settings =>
      simp only [Call.bind, Except.bind]
      cases settings.render r.format ⟨r.title, r.description?, r.endedAt⟩ fetched.rows r.query.columns <;> rfl

theorem map_execute (r : RunRequest) : Answer.output <$> execute r = admitting r := by
  have hexecute : execute r = check (StatementPair.of r.query) >>= fun queries =>
      Call.insert (fun s => s.insertExecution (.pending r)) >>= fun _ =>
        transition r.id .processing id >>= fun _ =>
          (produce r queries).attempt >>= fun
            | .ok (count, data) => complete r count data
            | .error cause => giveUp r cause := rfl
  have hconclude : (fun result : Except Fault (UInt64 × Rendering) => Answer.output <$> match result with
      | .ok (count, data) => complete r count data
      | .error cause => giveUp r cause) = concluding r := by
    funext result
    cases result with
    | error cause => exact map_giveUp r cause
    | ok produced => exact map_complete r produced.1 produced.2
  have hstart : ∀ queries,
      (transition r.id .processing id >>= fun _ => fetching r queries) = starting r queries := by
    intro queries
    rw [transition_eq, bind_changing]
    refine congrArg (changing r.id .processing fun e => e) (funext fun result => ?_)
    cases result <;> rfl
  simp only [hexecute, map_bind, hconclude, attempt_produce, hstart]
  unfold admitting
  cases StatementPair.of r.query with
  | error f => rfl
  | ok queries =>
    refine congrArg (Call.access .write _) (funext fun s => ?_)
    cases hput : s.insertExecution (.pending r) <;> (simp only [hput]; rfl)

theorem call_executeReport (id : Uuid) (format : ExportFormat) (agent? : Option Uuid) (c : CallSetting) :
    (Request.executeReport id format agent?).call c = looking id format agent? c := by
  have hcall : (Request.executeReport id format agent?).call c =
      Answer.output <$> (getReport id >>= fun report => execute (ofReport format agent? c report)) := rfl
  rw [hcall, map_bind]
  simp only [map_execute]
  refine congrArg (Call.access (.read .reports) _) (funext fun s => ?_)
  cases hread : s.getReport id with
  | error cause => simp only [hread]; rfl
  | ok report? => cases report? <;> (simp only [hread]; rfl)

theorem call_executeQuery (q : ReportQuery) (title : String) (format : ExportFormat) (agent? : Option Uuid)
    (c : CallSetting) : (Request.executeQuery q title format agent?).call c =
      admitting ⟨c.fresh, none, title, none, q, format, agent?, c.now, c.now, c.formats⟩ :=
  map_execute _

def cancelling (id : Uuid) (now : Moment) : Call Answer :=
  changing id .failed (fun e => e.stopped cancelledByUser now) fun
    | .ok e => .done (.ok (.execution e))
    | .error f => .done (.error f)

theorem call_cancelExecution (id : Uuid) (c : CallSetting) :
    (Request.cancelExecution id).call c = cancelling id c.now := by
  have hcall : (Request.cancelExecution id).call c =
      Answer.execution <$> transition id .failed fun e => e.stopped cancelledByUser c.now := rfl
  rw [hcall, transition_eq, map_changing, cancelling]
  congr 1
  funext result
  cases result <;> rfl

end RunStage

end PortfolioReports
