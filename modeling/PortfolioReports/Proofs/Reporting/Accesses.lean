import PortfolioReports.Proofs.Reporting.Keeps
import PortfolioReports.Proofs.Store.Reports

namespace PortfolioReports

open Calendar (Moment)

namespace Call

variable {α β : Type} {C : (Store → Store) → Prop}

/-- Every access that the call may still make, changes the store in a certain way. -/
inductive Only (C : (Store → Store) → Prop) : Call α → Prop where
  | done (result : Except Fault α) : Only C (.done result)
  | access {kind : AccessKind} {change : Store → Store} {next : Store → Call α} (hchange : C change)
      (hnext : ∀ s, Only C (next s)) : Only C (.access kind change next)
  | fetch {queries : StatementPair} {next : FetchCourse → Call α} (hnext : ∀ c, Only C (next c)) :
      Only C (.fetch queries next)

namespace Only

theorem bind {x : Call α} {k : α → Call β} (hx : x.Only C) (hk : ∀ a, (k a).Only C) : (x >>= k).Only C := by
  induction hx with
  | done result =>
    cases result with
    | ok a => exact hk a
    | error f => exact .done _
  | access hchange _ ih => exact .access hchange ih
  | fetch _ ih => exact .fetch ih

theorem map {x : Call α} (f : α → β) (hx : x.Only C) : (f <$> x).Only C := hx.bind fun _ => .done _

theorem attempt {x : Call α} (hx : x.Only C) : x.attempt.Only C := by
  induction hx with
  | done result => exact .done _
  | access hchange _ ih => exact .access hchange ih
  | fetch _ ih => exact .fetch ih

theorem ofStore (r : Except StoreFault α) : (Call.ofStore r).Only C := by
  cases r <;> exact .done _

theorem found (missing : Missing) (a? : Option α) : (Call.found missing a?).Only C := by
  cases a? <;> exact .done _

theorem changed (missing : Missing) (b : Bool) : (Call.changed missing b).Only C := by
  cases b <;> exact .done _

theorem requireText (s : String) (cause : ConfigFault) : (Call.requireText s cause).Only C := by
  unfold Call.requireText
  split <;> exact .done _

theorem read (table : StoreTable) (get : Store → Except StoreFault α) (h : C id) : (Call.read table get).Only C :=
  .access h fun s => ofStore (get s)

theorem insert {put : Store → Except StoreFault Store} (h : C fun s => (put s).toOption.getD s) :
    (Call.insert put).Only C := .access h fun _ => ofStore _

theorem change {f : Store → Store × α} (h : C fun s => (f s).1) : (Call.change f).Only C :=
  .access h fun _ => .done _

theorem mono {C' : (Store → Store) → Prop} {x : Call α} (hx : x.Only C) (h : ∀ f, C f → C' f) : x.Only C' := by
  induction hx with
  | done result => exact .done _
  | access hchange _ ih => exact .access (h _ hchange) ih
  | fetch _ ih => exact .fetch ih

theorem keeps {P : Store → Prop} {x : Call α} (hx : x.Only C) (h : ∀ f, C f → ∀ s, P s → P (f s)) :
    x.Keeps P fun _ => True := by
  induction hx with
  | done result => exact .done fun _ _ => trivial
  | access hchange _ ih => exact .access (h _ hchange) fun s _ => ih s
  | fetch _ ih => exact .fetch ih

theorem turn {x : Call α} (hx : x.Only C) (s : Store) :
    (x.turn .access s).2.Only C ∧ ((x.turn .access s).1 = s ∨ ∃ f, C f ∧ (x.turn .access s).1 = f s) := by
  cases hx with
  | done result => exact ⟨.done result, .inl rfl⟩
  | fetch hnext => exact ⟨.fetch hnext, .inl rfl⟩
  | access hchange hnext => exact ⟨hnext s, .inr ⟨_, hchange, rfl⟩⟩

theorem answer {o : Ongoing} (ho : o.call.Only C) (course : FetchCourse) : (o.answer course).call.Only C := by
  unfold Ongoing.answer
  split
  · rename_i hcall
    rw [hcall] at ho
    cases ho with
    | fetch hnext => exact hnext course
  · exact ho

end Only

end Call

inductive Request.Accesses (r : Request) (c : CallSetting) : (Store → Store) → Prop where
  | look : r.Accesses c id
  | insertReport (x : Report) : r.Accesses c fun s => (s.insertReport x).toOption.getD s
  | updateReport (x : Report) : r.Accesses c fun s => (s.updateReport x).1
  | deleteReport (id : Uuid) (now : Moment) : r.Accesses c fun s => (s.deleteReport id now).1
  | insertExecution (e : Execution) : r.Accesses c fun s => (s.insertExecution e).toOption.getD s
  | updateExecution (e : Execution) : r.Accesses c fun s => (s.updateExecution e).1
  | insertSchedule {new : NewSchedule} (hnew : r = .createSchedule new) (hcron : validateCron new.cron = .ok ()) :
      r.Accesses c fun s => (s.insertSchedule (new.schedule c.fresh c.now)).toOption.getD s
  | setScheduleActive (id : Uuid) (isActive : Bool) (now : Moment) :
      r.Accesses c fun s => (s.setScheduleActive id isActive now).1
  | deleteSchedule (id : Uuid) : r.Accesses c fun s => (s.deleteSchedule id).1
  | insertBenchmark (b : Benchmark) : r.Accesses c fun s => (s.insertBenchmark b).toOption.getD s
  | updateBenchmark (b : Benchmark) : r.Accesses c fun s => (s.updateBenchmark b).1
  | deleteBenchmark (id : Uuid) : r.Accesses c fun s => (s.deleteBenchmark id).1
  | putWidget (w : Widget) : r.Accesses c fun s => s.putWidget w
  | moveWidgets (user : Uuid) (now : Moment) (positions : List (Uuid × Int64)) :
      r.Accesses c fun s => (s.moveWidgets user now positions).1
  | deleteWidget (id : Uuid) : r.Accesses c fun s => (s.deleteWidget id).1
  | putSetting (key value : String) : r.Accesses c fun s => s.putSetting key value

namespace Reporting

open Call

variable {request : Request} {c : CallSetting}

theorem only_getReport (id : Uuid) : (getReport id).Only (request.Accesses c) :=
  (Only.read _ _ .look).bind fun _ => .found _ _

theorem only_checkUpdate (u : ReportUpdate) : (checkUpdate u).Only (request.Accesses c) := by
  unfold checkUpdate
  cases u.query? with
  | none =>
    cases u.name? with
    | none => exact .done _
    | some name => exact .requireText _ _
  | some q =>
    refine (Only.done _).bind fun _ => ?_
    cases u.name? with
    | none => exact .done _
    | some name => exact .requireText _ _

theorem only_createSchedule (new : NewSchedule) :
    (createSchedule c.fresh c.now new).Only ((Request.createSchedule new).Accesses c) := by
  unfold createSchedule
  refine (only_getReport _).bind fun _ => ?_
  cases hcron : validateCron new.cron with
  | error cause => exact .done _
  | ok _ =>
    refine (Only.done _).bind fun _ => (Only.requireText _ _).bind fun _ => ?_
    have hinsert : (Call.insert (fun s => s.insertSchedule (new.schedule c.fresh c.now)) >>= fun _ =>
        pure (new.schedule c.fresh c.now)).Only ((Request.createSchedule new).Accesses c) :=
      (Only.insert (.insertSchedule rfl hcron)).bind fun _ => .done _
    cases new.hasTarget with
    | true => exact hinsert
    | false => exact (Only.done _).bind fun _ => hinsert

theorem only_transition (id : Uuid) (status : ExecutionStatus) (apply : Execution → Execution) :
    (transition id status apply).Only (request.Accesses c) :=
  Only.bind ((Only.read _ _ .look).bind fun _ => .found _ _) fun _ => (Only.done _).bind fun _ =>
    (Only.change (.updateExecution _)).bind fun _ => .done _

theorem only_produce (r : RunRequest) (queries : StatementPair) : (produce r queries).Only (request.Accesses c) :=
  Only.bind (.fetch fun _ => .done _) fun _ =>
    (Only.bind (.read _ _ .look) fun _ => .done _).bind fun _ => (Only.done _).bind fun _ => .done _

theorem only_complete (r : RunRequest) (count : UInt64) (data : Rendering) :
    (complete r count data).Only (request.Accesses c) := by
  refine (only_transition _ _ _).attempt.bind fun result => ?_
  cases result <;> exact .done _

theorem only_execute (r : RunRequest) : (execute r).Only (request.Accesses c) := by
  refine (Only.done _).bind fun queries => (Only.insert (.insertExecution _)).bind fun _ =>
    (only_transition _ _ _).bind fun _ => (only_produce r queries).attempt.bind fun result => ?_
  cases result with
  | ok produced => exact only_complete r _ _
  | error cause => exact (only_transition _ _ _).attempt.bind fun _ => .done _

end Reporting

open Call Reporting in
theorem Request.only_accesses (c : CallSetting) (r : Request) : (r.call c).Only (r.Accesses c) := by
  cases r with
  | datasets => exact .done _
  | createReport r =>
    exact .map _ ((Only.requireText _ _).bind fun _ => (Only.done _).bind fun _ =>
      (Only.insert (.insertReport _)).bind fun _ => .done _)
  | getReport id => exact .map _ (only_getReport id)
  | updateReport id u =>
    exact .map _ ((only_getReport id).bind fun _ => (only_checkUpdate u).bind fun _ =>
      (Only.change (.updateReport _)).bind fun _ => (Only.changed _ _).bind fun _ => .done _)
  | deleteReport id => exact .map _ ((Only.change (.deleteReport id _)).bind fun _ => .changed _ _)
  | listReports f => exact .map _ ((Only.read _ _ .look).bind fun _ => .done _)
  | listTemplates => exact .map _ (.read _ _ .look)
  | cloneReport id name owner? =>
    exact .map _ ((only_getReport id).bind fun _ => (Only.insert (.insertReport _)).bind fun _ => .done _)
  | executeReport id format agent? => exact .map _ ((only_getReport id).bind fun _ => only_execute _)
  | executeQuery q title format agent? => exact .map _ (only_execute _)
  | getExecution id => exact .map _ ((Only.read _ _ .look).bind fun _ => .found _ _)
  | listExecutions f => exact .map _ (.read _ _ .look)
  | cancelExecution id => exact .map _ (only_transition _ _ _)
  | createSchedule new => exact .map _ (only_createSchedule new)
  | listSchedules report? => exact .map _ (.read _ _ .look)
  | setScheduleActive id isActive =>
    exact .map _ ((Only.change (.setScheduleActive id isActive _)).bind fun _ => .changed _ _)
  | deleteSchedule id => exact .map _ ((Only.change (.deleteSchedule id)).bind fun _ => .changed _ _)
  | createBenchmark b =>
    exact .map _ ((Only.done _).bind fun _ => (Only.insert (.insertBenchmark _)).bind fun _ => .done _)
  | updateBenchmark id b =>
    exact .map _ ((Only.done _).bind fun _ => Only.bind ((Only.read _ _ .look).bind fun _ => .found _ _) fun _ =>
      (Only.change (.updateBenchmark _)).bind fun _ => .done _)
  | getBenchmark id => exact .map _ ((Only.read _ _ .look).bind fun _ => .found _ _)
  | deleteBenchmark id => exact .map _ ((Only.change (.deleteBenchmark id)).bind fun _ => .changed _ _)
  | listBenchmarks f => exact .map _ (.read _ _ .look)
  | compare project q => exact .map _ ((Only.read _ _ .look).bind fun _ => .done _)
  | peerPercentile project metric methodology region => exact .map _ (.done _)
  | saveWidget w =>
    refine .map _ ((Only.done _).bind fun _ => Only.bind ?_ fun _ => .change (.putWidget _))
    unfold stampWidget
    split
    · exact .done _
    · exact (Only.read _ _ .look).bind fun _ => .done _
  | listWidgets user? area? =>
    refine .map _ ?_
    cases area? <;> exact .read _ _ .look
  | moveWidgets user positions => exact .map _ (.change (.moveWidgets user _ positions))
  | deleteWidget id => exact .map _ ((Only.change (.deleteWidget id)).bind fun _ => .changed _ _)
  | getSetting key => exact .map _ (.read _ _ .look)
  | putSetting key value => exact .map _ ((Only.done _).bind fun _ => .change (.putSetting key value))
  | listSettings => exact .map _ (.read _ _ .look)
  | settings => exact .map _ ((Only.read _ _ .look).bind fun _ => .done _)

namespace Service

theorem only_run {C : (Store → Store) → Prop} (h : ∀ (r : Request) c, (r.call c).Only C) (s : Store)
    (events : List ServiceEvent) :
    ∀ (j : Nat) (o : Ongoing), ((start s).run .access events).calls[j]? = some o → o.call.Only C := by
  induction events using List.reverseRecOn with
  | nil => simp [start, run]
  | append_singleton events e ih =>
    intro j o' ho'
    rw [run_concat] at ho'
    rcases getElem?_step ho' with ⟨-, request, setting, -, rfl⟩ | ⟨o, ho, ⟨rfl, -⟩ | ⟨-, rfl⟩ | ⟨course, -, rfl⟩⟩
    · exact h request setting
    · exact ih j _ ho
    · exact ((ih j o ho).turn _).1
    · exact (ih j o ho).answer course

end Service

inductive ReportChange (f : Store → Store) : Prop where
  | keep (h : ∀ s, (f s).reports = s.reports)
  | insert (x : Report) (h : ∀ s, f s = (s.insertReport x).toOption.getD s)
  | edit (id : Uuid) {g : ReportRow → ReportRow} (hg : ∀ r, (g r).id = r.id)
      (h : ∀ s, (f s).reports = Store.change (ReportRow.isLiveWith id) g s.reports)

namespace ReportChange

theorem refl : ReportChange id := .keep fun _ => rfl

theorem keep_insert {put : Store → Except StoreFault Store} (h : ∀ s s', put s = .ok s' → s'.reports = s.reports) :
    ReportChange fun s => (put s).toOption.getD s := by
  refine .keep fun s => ?_
  cases hs : put s with
  | error f => rfl
  | ok s' => exact h s s' hs

theorem updateReport (x : Report) : ReportChange fun s => (s.updateReport x).1 :=
  .edit x.id (g := (ReportRow.ofReport x).updateFrom) (fun _ => rfl) fun _ => rfl

theorem deleteReport (id : Uuid) (now : Calendar.Moment) : ReportChange fun s => (s.deleteReport id now).1 :=
  .edit id (g := fun r => { r with deletedAt? := some (Calendar.utcText now) }) (fun _ => rfl) fun _ => rfl

theorem insertExecution (e : Execution) : ReportChange fun s => (s.insertExecution e).toOption.getD s := by
  refine keep_insert fun s s' hs => ?_
  simp only [Store.insertExecution] at hs
  repeat' split at hs
  all_goals cases hs
  rfl

theorem insertSchedule (x : Schedule) : ReportChange fun s => (s.insertSchedule x).toOption.getD s := by
  refine keep_insert fun s s' hs => ?_
  simp only [Store.insertSchedule] at hs
  repeat' split at hs
  all_goals cases hs
  rfl

theorem insertBenchmark (b : Benchmark) : ReportChange fun s => (s.insertBenchmark b).toOption.getD s := by
  refine keep_insert fun s s' hs => ?_
  simp only [Store.insertBenchmark] at hs
  split at hs
  all_goals cases hs
  rfl

theorem putWidget (w : Widget) : ReportChange fun s => s.putWidget w := by
  refine .keep fun s => ?_
  simp only [Store.putWidget]
  split <;> rfl

theorem moveWidgets (user : Uuid) (now : Calendar.Moment) (positions : List (Uuid × Int64)) :
    ReportChange fun s => (s.moveWidgets user now positions).1 := by
  refine .keep fun s => ?_
  induction positions generalizing s with
  | nil => rfl
  | cons p positions ih => exact ih _

theorem uniqueIds {f : Store → Store} (h : ReportChange f) {s : Store} (hs : s.UniqueIds) : (f s).UniqueIds := by
  cases h with
  | keep h => rwa [Store.UniqueIds, h s]
  | insert x h =>
    rw [h s, Store.insertReport]
    split
    · exact hs
    · rename_i hnew
      have hids : ((s.reports ++ [ReportRow.ofReport x]).map ReportRow.id).Nodup := by
        rw [List.map_append, List.map_singleton]
        exact hs.append (List.nodup_singleton _)
          (List.disjoint_singleton.mpr (Store.not_mem_ids_of_hasReport hnew))
      exact hids
  | edit id hg h =>
    have hids : (f s).reports.map ReportRow.id = s.reports.map ReportRow.id := by
      simp only [h s, Store.change, List.map_map, Function.comp_def, Store.id_changed hg]
    rwa [Store.UniqueIds, hids]

end ReportChange

theorem Request.Accesses.reportChange {r : Request} {c : CallSetting} {f : Store → Store} (h : r.Accesses c f) :
    ReportChange f := by
  cases h with
  | look => exact .refl
  | insertReport x => exact .insert x fun _ => rfl
  | updateReport x => exact .updateReport x
  | deleteReport id now => exact .deleteReport id now
  | insertExecution e => exact .insertExecution e
  | insertSchedule => exact .insertSchedule _
  | insertBenchmark b => exact .insertBenchmark b
  | putWidget w => exact .putWidget w
  | moveWidgets user now positions => exact .moveWidgets user now positions
  | _ => exact .keep fun _ => rfl

theorem Request.only_reportChange (c : CallSetting) (r : Request) : (r.call c).Only ReportChange :=
  (r.only_accesses c).mono fun _ => Request.Accesses.reportChange

namespace Service

theorem reportChange_step (s : Store) (events : List ServiceEvent) (e : ServiceEvent) :
    ∃ f, ReportChange f ∧
      ((start s).run .access (events ++ [e])).store = f ((start s).run .access events).store := by
  rw [run_concat]
  rcases store_step .access ((start s).run .access events) e with hsame | ⟨i, o, -, ho, hstore⟩
  · exact ⟨id, .refl, hsame⟩
  · rw [hstore]
    have honly := only_run (fun r c => r.only_reportChange c) s events i o ho
    rcases (honly.turn _).2 with hsame | ⟨f, hf, hturn⟩
    · exact ⟨id, .refl, hsame⟩
    · exact ⟨f, hf, hturn⟩

theorem uniqueIds_run {s : Store} (hs : s.UniqueIds) (events : List ServiceEvent) :
    ((start s).run .access events).store.UniqueIds := by
  induction events using List.reverseRecOn with
  | nil => exact hs
  | append_singleton events e ih =>
    obtain ⟨f, hf, hstore⟩ := reportChange_step s events e
    rw [hstore]
    exact hf.uniqueIds ih

end Service

end PortfolioReports
