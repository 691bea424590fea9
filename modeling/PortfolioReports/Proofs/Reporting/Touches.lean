import PortfolioReports.Proofs.Reporting.RunStages
import PortfolioReports.Proofs.Store.Reports

namespace PortfolioReports

inductive ExecutionChange (made? target? : Option Uuid) (f : Store → Store) : Prop where
  | keep (h : ∀ s, (f s).executions = s.executions)
  | insert (e : Execution) (hmade : made? = some e.id) (hid : target? = some e.id)
      (h : ∀ s, f s = (s.insertExecution e).toOption.getD s)
  | update (e : Execution) (hid : target? = some e.id) (h : ∀ s, f s = (s.updateExecution e).1)

def KeepsReports (f : Store → Store) : Prop := ∀ s id, s.hasReport id = true → (f s).hasReport id = true

namespace Call

variable {α β : Type} {made? target? : Option Uuid}

/-- All accesses that a call may still make, make one execution at most and touch one at most. -/
inductive Touches (made? target? : Option Uuid) : Call α → Prop where
  | done (result : Except Fault α) : Touches made? target? (.done result)
  | access {kind : AccessKind} {change : Store → Store} {next : Store → Call α}
      (hexecutions : ExecutionChange made? target? change) (hreports : KeepsReports change)
      (hnext : ∀ s, Touches made? target? (next s)) : Touches made? target? (.access kind change next)
  | fetch {queries : StatementPair} {next : FetchCourse → Call α}
      (hnext : ∀ c, Touches made? target? (next c)) : Touches made? target? (.fetch queries next)

namespace Touches

theorem bind {x : Call α} {k : α → Call β} (hx : x.Touches made? target?)
    (hk : ∀ a, (k a).Touches made? target?) :
    (x >>= k).Touches made? target? := by
  induction hx with
  | done result =>
    cases result with
    | ok a => exact hk a
    | error f => exact .done _
  | access hexecutions hreports _ ih => exact .access hexecutions hreports ih
  | fetch _ ih => exact .fetch ih

theorem map {x : Call α} (f : α → β) (hx : x.Touches made? target?) : (f <$> x).Touches made? target? :=
  hx.bind fun _ => .done _

theorem ofStore (r : Except StoreFault α) : (Call.ofStore r).Touches made? target? := by
  cases r <;> exact .done _

theorem found (missing : Missing) (a? : Option α) : (Call.found missing a?).Touches made? target? := by
  cases a? <;> exact .done _

theorem changed (missing : Missing) (b : Bool) : (Call.changed missing b).Touches made? target? := by
  cases b <;> exact .done _

theorem requireText (s : String) (cause : ConfigFault) : (Call.requireText s cause).Touches made? target? := by
  unfold Call.requireText
  split <;> exact .done _

theorem read (table : StoreTable) (get : Store → Except StoreFault α) :
    (Call.read table get).Touches made? target? :=
  .access (.keep fun _ => rfl) (fun _ _ => id) fun s => ofStore (get s)

theorem insert {put : Store → Except StoreFault Store}
    (h : ∀ s s', put s = .ok s' →
      s'.executions = s.executions ∧ ∀ id, s.hasReport id = true → s'.hasReport id = true) :
    (Call.insert put).Touches made? target? := by
  have hput : ∀ s, ((put s).toOption.getD s).executions = s.executions ∧
      ∀ id, s.hasReport id = true → ((put s).toOption.getD s).hasReport id = true := by
    intro s
    cases hs : put s with
    | error f => exact ⟨rfl, fun _ => id⟩
    | ok s' => exact h s s' hs
  exact .access (.keep fun s => (hput s).1) (fun s => (hput s).2) fun s => ofStore _

theorem change {f : Store → Store × α} (hexecutions : ∀ s, (f s).1.executions = s.executions)
    (hreports : KeepsReports fun s => (f s).1) : (Call.change f).Touches made? target? :=
  .access (.keep hexecutions) hreports fun _ => .done _

theorem insertExecution (e : Execution) : (Call.insert fun s => s.insertExecution e).Touches (some e.id)
    (some e.id) := by
  refine .access (.insert e rfl rfl fun _ => rfl) (fun s id hid => ?_) fun s => ofStore _
  cases s.insertExecution_cases e with
  | inl hfault =>
    obtain ⟨f, hf⟩ := hfault
    simpa [hf, Except.toOption] using hid
  | inr hnew =>
    simp only [hnew.2]
    exact hid

end Touches

end Call

namespace Store

theorem moveWidgets_rest (s : Store) (user : Uuid) (time : Calendar.Moment) (positions : List (Uuid × Int64)) :
    (s.moveWidgets user time positions).1.executions = s.executions ∧
      (s.moveWidgets user time positions).1.reports = s.reports := by
  induction positions generalizing s with
  | nil => exact ⟨rfl, rfl⟩
  | cons p positions ih => exact ih _

end Store

namespace Reporting

open Call

variable {made? target? : Option Uuid}

theorem touches_getReport (id : Uuid) : (getReport id).Touches made? target? :=
    (Touches.read _ _).bind fun _ => .found _ _

theorem touches_insertReport (r : Report) : (Call.insert fun s => s.insertReport r).Touches made? target? := by
  refine .insert fun s s' hs => ?_
  simp only [Store.insertReport] at hs
  split at hs
  · cases hs
  · cases hs
    exact ⟨rfl, fun id => s.hasReport_append _⟩

theorem touches_updateReport (r : Report) : (Call.change fun s => s.updateReport r).Touches made? target? :=
  .change (fun _ => rfl) fun s id hid =>
    (s.hasReport_change (ReportRow.isLiveWith r.id)
      (f := (ReportRow.ofReport r).updateFrom) (fun _ => rfl) id).trans hid

theorem touches_deleteReport (id : Uuid) (now : Calendar.Moment) :
    (Call.change fun s => s.deleteReport id now).Touches made? target? :=
  .change (fun _ => rfl) fun s id' hid =>
    (s.hasReport_change (ReportRow.isLiveWith id)
      (f := fun r => { r with deletedAt? := some (Calendar.utcText now) }) (fun _ => rfl) id').trans hid

theorem touches_checkUpdate (u : ReportUpdate) : (checkUpdate u).Touches made? target? := by
  unfold checkUpdate
  cases u.query? with
  | none =>
    cases u.name? with
    | none => exact .done _
    | some name => exact .requireText _ _
  | some q =>
    refine (Touches.done _).bind fun _ => ?_
    cases u.name? with
    | none => exact .done _
    | some name => exact .requireText _ _

theorem touches_insertSchedule (x : Schedule) :
    (Call.insert fun s => s.insertSchedule x).Touches made? target? := by
  refine .insert fun s s' hs => ?_
  simp only [Store.insertSchedule] at hs
  split at hs
  · cases hs
  · split at hs
    · cases hs
      exact ⟨rfl, fun _ => id⟩
    · cases hs

theorem touches_createSchedule (id : Uuid) (now : Calendar.Moment) (r : NewSchedule) :
    (createSchedule id now r).Touches made? target? := by
  refine (touches_getReport _).bind fun _ => (Touches.done _).bind fun _ =>
    (Touches.requireText _ _).bind fun _ => ?_
  have hinsert : (Call.insert (fun s => s.insertSchedule (r.schedule id now)) >>= fun _ =>
      pure (r.schedule id now)).Touches made? target? := (touches_insertSchedule _).bind fun _ => .done _
  cases r.hasTarget with
  | true => exact hinsert
  | false => exact (Touches.done _).bind fun _ => hinsert

theorem touches_insertBenchmark (b : Benchmark) :
    (Call.insert fun s => s.insertBenchmark b).Touches made? target? := by
  refine .insert fun s s' hs => ?_
  simp only [Store.insertBenchmark] at hs
  split at hs
  · cases hs
  · cases hs
    exact ⟨rfl, fun _ => id⟩

theorem touches_stampWidget (fresh : Uuid) (now : Calendar.Moment) (w : Widget) :
    (stampWidget fresh now w).Touches made? target? := by
  unfold stampWidget
  split
  · exact .done _
  · exact (Touches.read _ _).bind fun _ => .done _

theorem touches_putWidget (w : Widget) : (Call.change fun s => (s.putWidget w, w)).Touches made? target? := by
  refine .change (fun s => ?_) fun s id hid => ?_
  · simp only [Store.putWidget]
    split <;> rfl
  · simp only [Store.putWidget]
    split <;> exact hid

theorem touches_moveWidgets (user : Uuid) (positions : List (Uuid × Int64)) (now : Calendar.Moment) :
    (moveWidgets user positions now).Touches made? target? := by
  refine .change (fun s => (s.moveWidgets_rest user now positions).1) fun s id hid => ?_
  have hreports := (s.moveWidgets_rest user now positions).2
  simp only [Store.hasReport, hreports] at hid ⊢
  exact hid

theorem touches_getExecution (id : Uuid) : (getExecution id).Touches made? target? :=
  (Touches.read _ _).bind fun _ => .found _ _

theorem touches_changing {β : Type} {id : Uuid} {status : ExecutionStatus} {apply : Execution → Execution}
    {k : Except Fault Execution → Call β} (happly : ∀ e, (apply e).id = e.id)
    (hk : ∀ result, (k result).Touches made? (some id)) :
    (changing id status apply k).Touches made? (some id) := by
  refine .access (.keep fun _ => rfl) (fun _ _ hid => hid) fun s => ?_
  cases hs : s.statusChange id status apply with
  | error f => exact hk _
  | ok e =>
    obtain ⟨e', -, hid, -, rfl⟩ := Store.of_statusChange hs
    refine .access (.update _ ?_ fun _ => rfl) (fun _ _ hid => hid) fun _ => hk _
    rw [happly]
    exact congrArg some hid.symm

end Reporting

namespace RunStage

open Call Reporting

theorem touches_givingUp (r : RunRequest) (cause : Fault) :
    (givingUp r cause).Touches (some r.id) (some r.id) :=
  touches_changing (fun _ => rfl) fun _ => .done _

theorem touches_completing (r : RunRequest) (count : UInt64) (data : Rendering) :
    (completing r count data).Touches (some r.id) (some r.id) := by
  refine touches_changing (fun _ => rfl) fun result => ?_
  cases result <;> exact .done _

theorem touches_fetching (r : RunRequest) (queries : StatementPair) :
    (fetching r queries).Touches (some r.id) (some r.id) := by
  refine .fetch fun c => ?_
  cases c.result with
  | error cause => exact touches_givingUp r cause
  | ok fetched =>
    refine .access (.keep fun _ => rfl) (fun _ _ => id) fun s => ?_
    cases r.rendered fetched s with
    | error cause => exact touches_givingUp r cause
    | ok data => exact touches_completing r _ data

theorem touches_admitting (r : RunRequest) : (admitting r).Touches (some r.id) (some r.id) := by
  unfold admitting
  cases StatementPair.of r.query with
  | error f => exact .done _
  | ok queries =>
    have hinsert := Touches.insertExecution (.pending r)
    cases hinsert with
    | access hexecutions hreports hnext =>
      refine .access hexecutions hreports fun s => ?_
      cases s.insertExecution (.pending r) with
      | error cause => exact .done _
      | ok _ =>
        refine touches_changing (fun _ => rfl) fun result => ?_
        cases result with
        | error f => exact .done _
        | ok _ => exact touches_fetching r queries

theorem touches_looking (id : Uuid) (format : ExportFormat) (agent? : Option Uuid) (c : CallSetting) :
    (looking id format agent? c).Touches (some c.fresh) (some c.fresh) := by
  refine .access (.keep fun _ => rfl) (fun _ _ hid => hid) fun s => ?_
  cases s.getReport id with
  | error cause => exact .done _
  | ok report? =>
    cases report? with
    | none => exact .done _
    | some report => exact touches_admitting (ofReport format agent? c report)

end RunStage

def Request.execution? (c : CallSetting) : Request → Option Uuid
  | .cancelExecution id => some id
  | r => r.runId? c

open Call Reporting in
theorem Request.touches (c : CallSetting) (r : Request) : (r.call c).Touches (r.runId? c) (r.execution? c) := by
  cases r with
  | datasets => exact .done _
  | createReport r =>
    exact .map _ ((Touches.requireText _ _).bind fun _ => (Touches.done _).bind fun _ =>
      (touches_insertReport _).bind fun _ => .done _)
  | getReport id => exact .map _ (touches_getReport id)
  | updateReport id u =>
    exact .map _ ((touches_getReport id).bind fun _ => (touches_checkUpdate u).bind fun _ =>
      (touches_updateReport _).bind fun _ => (Touches.changed _ _).bind fun _ => .done _)
  | deleteReport id => exact .map _ ((touches_deleteReport id _).bind fun _ => .changed _ _)
  | listReports f => exact .map _ ((Touches.read _ _).bind fun _ => .done _)
  | listTemplates => exact .map _ (.read _ _)
  | cloneReport id name owner? =>
    exact .map _ ((touches_getReport id).bind fun _ => (touches_insertReport _).bind fun _ => .done _)
  | executeReport id format agent? =>
    rw [RunStage.call_executeReport]
    exact RunStage.touches_looking id format agent? c
  | executeQuery q title format agent? =>
    rw [RunStage.call_executeQuery]
    exact RunStage.touches_admitting ⟨c.fresh, none, title, none, q, format, agent?, c.now, c.now, c.formats⟩
  | getExecution id => exact .map _ (touches_getExecution id)
  | listExecutions f => exact .map _ (.read _ _)
  | cancelExecution id =>
    rw [RunStage.call_cancelExecution]
    refine touches_changing (fun _ => rfl) fun result => ?_
    cases result <;> exact .done _
  | createSchedule s => exact .map _ (touches_createSchedule _ _ s)
  | listSchedules report? => exact .map _ (.read _ _)
  | setScheduleActive id isActive =>
    exact .map _ ((Touches.change (fun _ => rfl) fun _ _ hid => hid).bind fun _ => .changed _ _)
  | deleteSchedule id =>
    exact .map _ ((Touches.change (fun _ => rfl) fun _ _ hid => hid).bind fun _ => .changed _ _)
  | createBenchmark b =>
    exact .map _ ((Touches.done _).bind fun _ => (touches_insertBenchmark _).bind fun _ => .done _)
  | updateBenchmark id b =>
    exact .map _ ((Touches.done _).bind fun _ => Touches.bind ((Touches.read _ _).bind fun _ => .found _ _) fun _ =>
      (Touches.change (fun _ => rfl) fun _ _ hid => hid).bind fun _ => .done _)
  | getBenchmark id => exact .map _ ((Touches.read _ _).bind fun _ => .found _ _)
  | deleteBenchmark id =>
    exact .map _ ((Touches.change (fun _ => rfl) fun _ _ hid => hid).bind fun _ => .changed _ _)
  | listBenchmarks f => exact .map _ (.read _ _)
  | compare project q => exact .map _ ((Touches.read _ _).bind fun _ => .done _)
  | peerPercentile project metric methodology region => exact .map _ (.done _)
  | saveWidget w =>
    exact .map _ ((Touches.done _).bind fun _ => (touches_stampWidget _ _ w).bind fun _ => touches_putWidget _)
  | listWidgets user? area? =>
    refine .map _ ?_
    cases area? <;> exact .read _ _
  | moveWidgets user positions => exact .map _ (touches_moveWidgets user positions _)
  | deleteWidget id =>
    exact .map _ ((Touches.change (fun _ => rfl) fun _ _ hid => hid).bind fun _ => .changed _ _)
  | getSetting key => exact .map _ (.read _ _)
  | putSetting key value =>
    exact .map _ ((Touches.done _).bind fun _ => .change (fun _ => rfl) fun _ _ hid => hid)
  | listSettings => exact .map _ (.read _ _)
  | settings => exact .map _ ((Touches.read _ _).bind fun _ => .done _)

structure Store.Beside (made? target? : Option Uuid) (s s' : Store) : Prop where
  others : ∀ u, target? ≠ some u → s'.executionsOf u = s.executionsOf u
  ids : ∀ r ∈ s'.executions, (∃ r' ∈ s.executions, r'.id = r.id) ∨ ∃ u, made? = some u ∧ r.id = u.toText
  kept : ∀ u, s.executionsOf u ≠ [] → s'.executionsOf u ≠ []
  reports : ∀ id, s.hasReport id = true → s'.hasReport id = true

namespace Store.Beside

variable {made? target? : Option Uuid} {s s' s'' : Store}

theorem refl (s : Store) : Beside made? target? s s :=
  ⟨fun _ _ => rfl, fun r hr => .inl ⟨r, hr, rfl⟩, fun _ => id, fun _ => id⟩

theorem trans (h : Beside made? target? s s') (h' : Beside made? target? s' s'') :
    Beside made? target? s s'' := by
  refine ⟨fun u hu => (h'.others u hu).trans (h.others u hu), fun r hr => ?_, fun u hu => h'.kept u (h.kept u hu),
    fun id hid => h'.reports id (h.reports id hid)⟩
  cases h'.ids r hr with
  | inr hmade => exact .inr hmade
  | inl hold =>
    obtain ⟨r', hr', hid⟩ := hold
    cases h.ids r' hr' with
    | inl holder =>
      obtain ⟨r'', hr'', hid'⟩ := holder
      exact .inl ⟨r'', hr'', hid'.trans hid⟩
    | inr hmade =>
      obtain ⟨u, hu, hid'⟩ := hmade
      exact .inr ⟨u, hu, hid.symm.trans hid'⟩

theorem of_change {f : Store → Store} (hexecutions : ExecutionChange made? target? f)
    (hreports : KeepsReports f)
    (s : Store) : Beside made? target? s (f s) := by
  cases hexecutions with
  | keep h =>
    have hsame := Store.executionsOf_of_eq (h s)
    refine ⟨fun u _ => hsame u, fun r hr => .inl ⟨r, ?_, rfl⟩, fun u hu => ?_, hreports s⟩
    · rwa [h s] at hr
    · rwa [hsame u]
  | insert e hmade hid h =>
    cases s.insertExecution_cases e with
    | inl hfault =>
      obtain ⟨f, hf⟩ := hfault
      have hsame : s = (s.insertExecution e).toOption.getD s := by rw [hf]; rfl
      rw [h s, ← hsame]
      exact refl s
    | inr hnew =>
      have hput : (s.insertExecution e).toOption.getD s =
          { s with executions := s.executions ++ [.ofExecution e] } := by rw [hnew.2]; rfl
      refine ⟨fun u hu => ?_, fun r hr => ?_, fun u hu => ?_, hreports s⟩
      · have hne : ¬ e.id = u := fun heq => hu (hid.trans (congrArg some heq))
        rw [h s, hput, Store.executionsOf_append, if_neg hne, List.append_nil]
      · rw [h s, hput, List.mem_append, List.mem_singleton] at hr
        cases hr with
        | inl hold => exact .inl ⟨r, hold, rfl⟩
        | inr hr => exact .inr ⟨e.id, hmade, by rw [hr]; rfl⟩
      · rw [h s, hput, Store.executionsOf_append]
        simp [hu]
  | update e hid h =>
    refine ⟨fun u hu => ?_, fun r hr => .inl ?_, fun u hu => ?_, hreports s⟩
    · have hne : ¬ e.id = u := fun heq => hu (hid.trans (congrArg some heq))
      rw [h s, Store.executionsOf_updateExecution, if_neg hne]
    · rw [h s] at hr
      have hmem := List.mem_map_of_mem (f := ExecutionRow.id) hr
      rw [Store.executions_updateExecution_ids, List.mem_map] at hmem
      exact hmem
    · rw [h s, Store.executionsOf_updateExecution]
      split
      · simpa using hu
      · exact hu

end Store.Beside

namespace Call.Touches

variable {α : Type} {made? target? : Option Uuid} {x : Call α}

theorem write (hx : x.Touches made? target?) (s : Store) :
    (x.write s).2.Touches made? target? ∧ Store.Beside made? target? s (x.write s).1 := by
  cases hx with
  | done result => exact ⟨.done result, .refl s⟩
  | fetch hnext => exact ⟨.fetch hnext, .refl s⟩
  | @access kind change next hexecutions hreports hnext =>
    cases kind with
    | read table => exact ⟨.access hexecutions hreports hnext, .refl s⟩
    | write => exact ⟨hnext s, .of_change hexecutions hreports s⟩

theorem turn (hx : x.Touches made? target?) (g : Stride) (s : Store) :
    (x.turn g s).2.Touches made? target? ∧ Store.Beside made? target? s (x.turn g s).1 := by
  cases hx with
  | done result => exact ⟨.done result, .refl s⟩
  | fetch hnext => exact ⟨.fetch hnext, .refl s⟩
  | @access kind change next hexecutions hreports hnext =>
    have hone : Store.Beside made? target? s (change s) := .of_change hexecutions hreports s
    cases g with
    | access => exact ⟨hnext s, hone⟩
    | statusChange =>
      cases kind with
      | write => exact ⟨hnext s, hone⟩
      | read table =>
        cases table with
        | executions =>
          obtain ⟨htouches, hmore⟩ := (hnext s).write (change s)
          exact ⟨htouches, hone.trans hmore⟩
        | _ => exact ⟨hnext s, hone⟩

theorem answer {o : Ongoing} (ho : o.call.Touches made? target?) (course : FetchCourse) :
    (o.answer course).call.Touches made? target? := by
  unfold Ongoing.answer
  split
  · rename_i hcall
    rw [hcall] at ho
    cases ho with
    | fetch hnext => exact hnext course
  · exact ho

end Call.Touches

namespace Service

def TouchesOwn (σ : Service) : Prop :=
  ∀ (j : Nat) (o : Ongoing), σ.calls[j]? = some o → o.call.Touches o.runId? (o.request.execution? o.setting)

theorem touchesOwn_run (g : Stride) (s : Store) (events : List ServiceEvent) :
    ((start s).run g events).TouchesOwn := by
  induction events using List.reverseRecOn with
  | nil => simp [TouchesOwn, start, run]
  | append_singleton events e ih =>
    intro j o' ho'
    rw [run_concat] at ho'
    rcases getElem?_step ho' with ⟨-, request, setting, -, rfl⟩ | ⟨o, ho, ⟨rfl, -⟩ | ⟨-, rfl⟩ | ⟨course, -, rfl⟩⟩
    · exact request.touches setting
    · exact ih j _ ho
    · exact ((ih j o ho).turn g _).1
    · obtain ⟨hrequest, hsetting, -⟩ := request_answer course o
      rw [runId?_answer, hrequest, hsetting]
      exact (ih j o ho).answer course

theorem beside_step {g : Stride} {σ : Service} (htouches : σ.TouchesOwn) (e : ServiceEvent) :
    (σ.step g e).store = σ.store ∨ ∃ i o, e = .turn i ∧ σ.calls[i]? = some o ∧
      (σ.step g e).store = (o.call.turn g σ.store).1 ∧
      Store.Beside o.runId? (o.request.execution? o.setting) σ.store (σ.step g e).store := by
  cases σ.store_step g e with
  | inl hsame => exact .inl hsame
  | inr hturn =>
    obtain ⟨i, o, he, ho, hstore⟩ := hturn
    exact .inr ⟨i, o, he, ho, hstore, hstore ▸ ((htouches i o ho).turn g σ.store).2⟩

variable {σ : Service}

theorem reports_step {g : Stride} (htouches : σ.TouchesOwn) (e : ServiceEvent) {id : String}
    (hid : σ.store.hasReport id = true) : (σ.step g e).store.hasReport id = true := by
  rcases beside_step (g := g) htouches e with hsame | ⟨i, o, -, -, -, hbeside⟩
  · rwa [hsame]
  · exact hbeside.reports id hid

theorem kept_step {g : Stride} (htouches : σ.TouchesOwn) (e : ServiceEvent) {u : Uuid}
    (hu : σ.store.executionsOf u ≠ []) : (σ.step g e).store.executionsOf u ≠ [] := by
  rcases beside_step (g := g) htouches e with hsame | ⟨i, o, -, -, -, hbeside⟩
  · rwa [hsame]
  · exact hbeside.kept u hu

end Service

end PortfolioReports
