import PortfolioReports.Proofs.Reporting.Effects
import PortfolioReports.Proofs.Reporting.RunProgress

namespace PortfolioReports

open Calendar Call RunStage

def Request.runFormat? : Request → Option ExportFormat
  | .executeReport _ format _ | .executeQuery _ _ format _ => some format
  | _ => none

def Ongoing.admission? (o : Ongoing) : Option (Except Fault RunRequest) :=
  match o.request with
  | .executeReport id format agent? => o.found?.map fun s =>
    match s.getReport id with
    | .ok (some report) => (ofReport format agent? o.setting report).checked
    | .ok none => .error (.notFound (.report id))
    | .error cause => .error (.database cause)
  | .executeQuery q title format agent? =>
    some (RunRequest.checked
      ⟨o.setting.fresh, none, title, none, q, format, agent?, o.setting.now, o.setting.now, o.setting.formats⟩)
  | _ => none

namespace Ongoing

variable {o : Ongoing}

theorem of_admission? {r : RunRequest} (h : o.admission? = some (.ok r)) : o.runId? = some r.id ∧
    o.request.runFormat? = some r.format ∧ r.startedAt = o.setting.now ∧ r.endedAt = o.setting.now ∧
      r.formats = o.setting.formats := by
  have hchecked : ∀ {r₀ : RunRequest}, r₀.checked = .ok r → r = r₀ := by
    intro r₀ hr₀
    rcases r₀.checked_cases with ⟨f, hf, -⟩ | ⟨queries, hok, -⟩
    · rw [hf] at hr₀
      cases hr₀
    · rw [hok] at hr₀
      exact (Except.ok.inj hr₀).symm
  unfold admission? at h
  unfold runId?
  split at h
  · rename_i id format agent? hrequest
    rw [hrequest]
    obtain ⟨s, -, hs⟩ := Option.map_eq_some_iff.mp h
    split at hs
    · rw [hchecked hs]
      exact ⟨rfl, rfl, rfl, rfl, rfl⟩
    · cases hs
    · cases hs
  · rename_i q title format agent? hrequest
    rw [hrequest, hchecked (Option.some.inj h)]
    exact ⟨rfl, rfl, rfl, rfl, rfl⟩
  · cases h

theorem admission?_turn {a : Except Fault RunRequest} (h : o.admission? = some a) (g : Stride) (s : Store) :
    (o.turn g s).admission? = some a := by
  unfold admission? at h ⊢
  simp only [turn]
  split at h
  · obtain ⟨s', hs', ha⟩ := Option.map_eq_some_iff.mp h
    rw [hs', Option.or_some]
    exact congrArg some ha
  · exact h
  · cases h

theorem admission?_answer (course : FetchCourse) (o : Ongoing) :
    (o.answer course).admission? = o.admission? := by
  obtain ⟨hrequest, hsetting, hfound⟩ := Service.request_answer course o
  simp only [admission?, hrequest, hsetting, hfound]

/-- What the store says of a run, as far as the run has come. -/
def Recorded (o : Ongoing) (s : Store) (cancelled : Prop) (u : Uuid) : Prop :=
  match o.admission? with
  | none => ¬ cancelled ∧ s.executionsOf u = [] ∧ ∃ id format agent?,
      o.request = .executeReport id format agent? ∧ o.found? = none ∧ o.call = looking id format agent? o.setting
  | some (.error f) => ¬ cancelled ∧ s.executionsOf u = [] ∧ o.call = .done (.error f)
  | some (.ok r) => (∀ id, r.report? = some id → s.hasReport id.toText = true) ∧
      r.Stage cancelled (s.executionsOf u) o.course? o.call

theorem recorded_begin {request : Request} {c : CallSetting} {s : Store} {cancelled : Prop} {u : Uuid}
    (hrun : request.runId? c = some u) (hcancelled : ¬ cancelled) (hrows : s.executionsOf u = []) :
    (Ongoing.begin request c).Recorded s cancelled u := by
  cases request with
  | executeReport id format agent? =>
    exact ⟨hcancelled, hrows, id, format, agent?, rfl, rfl, call_executeReport id format agent? c⟩
  | executeQuery q title format agent? =>
    have hcall := call_executeQuery q title format agent? c
    rcases RunRequest.checked_cases ⟨c.fresh, none, title, none, q, format, agent?, c.now, c.now, c.formats⟩ with
      ⟨f, hchecked, hadmitting⟩ | ⟨queries, hchecked, hadmitting⟩
    · simp only [Recorded, admission?, begin, hchecked, hcall, hadmitting]
      exact ⟨hcancelled, hrows, trivial⟩
    · simp only [Recorded, admission?, begin, hchecked, hcall, hadmitting]
      exact ⟨nofun, .entering hcancelled hrows⟩
  | _ => cases hrun

theorem Recorded.of_same {s s' : Store} {cancelled : Prop} {u : Uuid} (h : o.Recorded s cancelled u)
    (hrows : s'.executionsOf u = s.executionsOf u)
    (hreports : ∀ id, s.hasReport id = true → s'.hasReport id = true) :
    o.Recorded s' cancelled u := by
  unfold Recorded at h ⊢
  rw [hrows]
  split at h
  · exact h
  · exact h
  · exact ⟨fun id hid => hreports _ (h.1 id hid), h.2⟩

theorem Recorded.cancel {s : Store} {cancelled : Prop} {u : Uuid} {time : Moment} {x : Execution}
    (h : o.Recorded s cancelled u) (hrun : o.runId? = some u) (hnow : o.setting.now.Storable)
    (htime : time.Storable)
    (hx : s.statusChange u .failed (fun e => e.stopped Reporting.cancelledByUser time) = .ok x) :
    o.Recorded (s.updateExecution x).1 True u := by
  unfold Recorded at h ⊢
  split at h
  · rw [Store.statusChange_of_nil h.2.1] at hx
    cases hx
  · rw [Store.statusChange_of_nil h.2.1] at hx
    cases hx
  · rename_i r hadmission
    obtain ⟨hid, -, hstart, hend, -⟩ := of_admission? hadmission
    obtain rfl : r.id = u := Option.some.inj (hid.symm.trans hrun)
    exact ⟨h.1, h.2.cancel ⟨hstart ▸ hnow, hend ▸ hnow⟩ htime hx⟩

theorem Recorded.answer {s : Store} {cancelled : Prop} {u : Uuid} (h : o.Recorded s cancelled u)
    (course : FetchCourse) : (o.answer course).Recorded s cancelled u := by
  have hadmission := admission?_answer course o
  cases hcall : o.call with
  | fetch queries next =>
    have hanswer : o.answer course = { o with course? := some course, call := next course } := by
      simp only [Ongoing.answer, hcall]
    unfold Recorded at h ⊢
    rw [hadmission]
    rw [hanswer]
    split at h
    · obtain ⟨-, -, id, format, agent?, -, -, hlooking⟩ := h
      rw [hcall] at hlooking
      cases hlooking
    · obtain ⟨-, -, hdone⟩ := h
      rw [hcall] at hdone
      cases hdone
    · rw [hcall] at h
      exact ⟨h.1, h.2.answer course⟩
  | done result =>
    have hanswer : o.answer course = o := by simp only [Ongoing.answer, hcall]
    rwa [hanswer]
  | access kind change next =>
    have hanswer : o.answer course = o := by simp only [Ongoing.answer, hcall]
    rwa [hanswer]

theorem turn_looking (id : Uuid) (format : ExportFormat) (agent? : Option Uuid) (c : CallSetting) (s : Store) :
    (looking id format agent? c).turn .statusChange s = (s, match s.getReport id with
      | .ok (some report) => admitting (ofReport format agent? c report)
      | .ok none => .done (.error (.notFound (.report id)))
      | .error cause => .done (.error (.database cause))) := rfl

theorem admission?_turn_looking {id : Uuid} {format : ExportFormat} {agent? : Option Uuid}
    (hrequest : o.request = .executeReport id format agent?) (hfound : o.found? = none) (s : Store) :
    (o.turn .statusChange s).admission? = some (match s.getReport id with
      | .ok (some report) => (ofReport format agent? o.setting report).checked
      | .ok none => .error (.notFound (.report id))
      | .error cause => .error (.database cause)) := by
  simp only [admission?, Ongoing.turn, hrequest, hfound]
  rfl

theorem Recorded.turn {s : Store} {cancelled : Prop} {u : Uuid} (h : o.Recorded s cancelled u)
    (hrun : o.runId? = some u) (hnow : o.setting.now.Storable)
    (hreports : ∀ id, s.hasReport id = true → (o.call.turn .statusChange s).1.hasReport id = true) :
    (o.turn .statusChange s).Recorded (o.call.turn .statusChange s).1 cancelled u := by
  cases hadmission : o.admission? with
  | none =>
    simp only [Recorded, hadmission] at h
    obtain ⟨hcancelled, hrows, id, format, agent?, hrequest, hfound, hcall⟩ := h
    have hturn := turn_looking id format agent? o.setting s
    rw [← hcall] at hturn
    have hnext := admission?_turn_looking hrequest hfound s
    have hafter : (o.turn .statusChange s).call = (o.call.turn .statusChange s).2 := rfl
    cases hread : s.getReport id with
    | error cause =>
      simp only [hread] at hturn hnext
      simp only [Recorded, hnext, hafter, hturn]
      exact ⟨hcancelled, hrows, trivial⟩
    | ok report? =>
      cases report? with
      | none =>
        simp only [hread] at hturn hnext
        simp only [Recorded, hnext, hafter, hturn]
        exact ⟨hcancelled, hrows, trivial⟩
      | some report =>
        simp only [hread] at hturn hnext
        rcases RunRequest.checked_cases (ofReport format agent? o.setting report) with
          ⟨f, hchecked, hadmitting⟩ | ⟨queries, hchecked, hadmitting⟩
        · simp only [Recorded, hnext, hchecked, hafter, hturn, hadmitting]
          exact ⟨hcancelled, hrows, trivial⟩
        · simp only [Recorded, hnext, hchecked, hafter, hturn, hadmitting]
          refine ⟨fun id hid => ?_, .entering hcancelled hrows⟩
          obtain rfl : report.id = id := Option.some.inj hid
          exact Store.hasReport_of_getReport hread
  | some a =>
    have hsame := admission?_turn hadmission .statusChange s
    cases a with
    | error f =>
      simp only [Recorded, hadmission, hsame] at h ⊢
      obtain ⟨hcancelled, hrows, hcall⟩ := h
      simp only [Ongoing.turn, hcall]
      exact ⟨hcancelled, hrows, rfl⟩
    | ok r =>
      obtain ⟨hid, -, hstart, hend, -⟩ := of_admission? hadmission
      obtain rfl : r.id = u := Option.some.inj (hid.symm.trans hrun)
      simp only [Recorded, hadmission, hsame] at h ⊢
      exact ⟨fun id hid => hreports _ (h.1 id hid), h.2.turn ⟨hstart ▸ hnow, hend ▸ hnow⟩ h.1⟩

end Ongoing

namespace Service

structure Recorded (s : Store) (σ : Service) : Prop where
  ids : ∀ row ∈ σ.store.executions, (∃ row' ∈ s.executions, row'.id = row.id) ∨
    ∃ u ∈ σ.calls.filterMap Ongoing.runId?, row.id = u.toText
  cancelled : ∀ u, σ.Cancelled u → σ.store.executionsOf u ≠ []
  runs : ∀ (j : Nat) (o : Ongoing) (u : Uuid), σ.calls[j]? = some o → o.runId? = some u →
    o.Recorded σ.store (σ.Cancelled u) u

variable {s : Store} {σ : Service} {e : ServiceEvent}

theorem executionsOf_eq_nil (hids : ∀ row ∈ σ.store.executions, (∃ row' ∈ s.executions, row'.id = row.id) ∨
      ∃ u ∈ σ.calls.filterMap Ongoing.runId?, row.id = u.toText)
    {u : Uuid} (hnew : s.executionsOf u = []) (hfresh : u ∉ σ.calls.filterMap Ongoing.runId?) :
    σ.store.executionsOf u = [] := by
  rw [Store.executionsOf, List.filter_eq_nil_iff]
  intro row hrow hid
  rw [beq_iff_eq] at hid
  rcases hids row hrow with ⟨row', hrow', hsame⟩ | ⟨v, hv, hrun⟩
  · have hmem : row' ∈ s.executionsOf u := by
      rw [Store.executionsOf, List.mem_filter]
      exact ⟨hrow', by simp [hsame, hid]⟩
    rw [hnew] at hmem
    cases hmem
  · obtain rfl : u = v := Uuid.toText_injective (hid.symm.trans hrun)
    exact hfresh hv

theorem filterMap_runId?_mono (g : Stride) (σ : Service) (e : ServiceEvent) {u : Uuid}
    (hu : u ∈ σ.calls.filterMap Ongoing.runId?) : u ∈ (σ.step g e).calls.filterMap Ongoing.runId? := by
  rw [filterMap_runId?_step]
  exact List.mem_append_left _ hu

theorem Recorded.ids_step (h : Recorded s σ) (htouches : σ.TouchesOwn) :
    ∀ row ∈ (σ.step .statusChange e).store.executions, (∃ row' ∈ s.executions, row'.id = row.id) ∨
      ∃ u ∈ (σ.step .statusChange e).calls.filterMap Ongoing.runId?, row.id = u.toText := by
  have hold : ∀ row ∈ σ.store.executions, (∃ row' ∈ s.executions, row'.id = row.id) ∨
      ∃ u ∈ (σ.step .statusChange e).calls.filterMap Ongoing.runId?, row.id = u.toText := by
    intro row hrow
    rcases h.ids row hrow with hfirst | ⟨u, hu, hid⟩
    · exact .inl hfirst
    · exact .inr ⟨u, filterMap_runId?_mono .statusChange σ e hu, hid⟩
  intro row hrow
  rcases beside_step (g := .statusChange) htouches e with hsame | ⟨i, o, rfl, ho, -, hbeside⟩
  · rw [hsame] at hrow
    exact hold row hrow
  · rcases hbeside.ids row hrow with ⟨row', hrow', hid⟩ | ⟨u, hu, hid⟩
    · rw [← hid]
      exact hold row' hrow'
    · have hmem : u ∈ σ.calls.filterMap Ongoing.runId? := by
        rw [List.mem_filterMap]
        exact ⟨o, List.mem_of_getElem? ho, hu⟩
      exact .inr ⟨u, filterMap_runId?_mono .statusChange σ _ hmem, hid⟩

/-- A run that begins has a new identifier. -/
theorem Recorded.executionsOf_begin (h : Recorded s σ) {request : Request} {setting : CallSetting} {u : Uuid}
    (hrun : request.runId? setting = some u)
    (hnew : ∀ u ∈ (σ.step .statusChange (.begin request setting)).calls.filterMap Ongoing.runId?,
      s.executionsOf u = [])
    (hunique : ((σ.step .statusChange (.begin request setting)).calls.filterMap Ongoing.runId?).Nodup) :
    (σ.step .statusChange (.begin request setting)).store.executionsOf u = [] := by
  have hbegin : [ServiceEvent.begin request setting].filterMap ServiceEvent.runId? = [u] := by
    simp only [List.filterMap_cons, ServiceEvent.runId?, List.filterMap_nil, hrun]
  have hmem := hnew u
  rw [filterMap_runId?_step, hbegin] at hmem hunique
  have hfresh : u ∉ σ.calls.filterMap Ongoing.runId? := fun hu =>
    (List.nodup_append.mp hunique).2.2 u hu u (List.mem_singleton.mpr rfl) rfl
  exact executionsOf_eq_nil h.ids (hmem (by simp)) hfresh

theorem Recorded.step (h : Recorded s σ) (htouches : σ.TouchesOwn) (hcancels : σ.CancelsWhole)
    (hnow : ∀ (j : Nat) (o : Ongoing), σ.calls[j]? = some o → o.setting.now.Storable)
    (hnew : ∀ u ∈ (σ.step .statusChange e).calls.filterMap Ongoing.runId?, s.executionsOf u = [])
    (hunique : ((σ.step .statusChange e).calls.filterMap Ongoing.runId?).Nodup) :
    Recorded s (σ.step .statusChange e) := by
  have hids := h.ids_step (e := e) htouches
  have hkept : ∀ u, (σ.step .statusChange e).Cancelled u → (σ.step .statusChange e).store.executionsOf u ≠ [] :=
    fun u hu => kept_step htouches e ((effect_step htouches hcancels e u).there_of_cancelled (h.cancelled u) hu)
  have hbefore : (σ.calls.filterMap Ongoing.runId?).Nodup := by
    rw [filterMap_runId?_step] at hunique
    exact (List.nodup_append.mp hunique).1
  refine ⟨hids, hkept, fun j o' u ho' hrun => ?_⟩
  have hstill : ∀ id, σ.store.hasReport id = true → (σ.step .statusChange e).store.hasReport id = true :=
    fun _ => reports_step htouches e
  rcases getElem?_step ho' with
    ⟨-, request, setting, rfl, rfl⟩ | ⟨o, ho, ⟨rfl, he⟩ | ⟨rfl, rfl⟩ | ⟨course, rfl, rfl⟩⟩
  · have hrows := h.executionsOf_begin hrun hnew hunique
    exact Ongoing.recorded_begin hrun (fun hu => hkept u hu hrows) hrows
  · cases effect_step htouches hcancels e u with
    | none hrows hcancelled =>
      rw [propext hcancelled]
      exact (h.runs j _ u ho hrun).of_same hrows hstill
    | @own i o' he' ho' hrun' hstore hcancelled =>
      obtain rfl : i = j := index_eq_of_runId? hbefore ho' ho hrun' hrun
      exact absurd he' he
    | cancel he' ho' hrequest hx hstore hcancelled =>
      rw [hstore, eq_true hcancelled]
      exact (h.runs j _ u ho hrun).cancel hrun (hnow j _ ho) (hnow _ _ ho') hx
  · have hstore : (σ.step .statusChange (.turn j)).store = (o.call.turn .statusChange σ.store).1 := by
      simp only [Service.step, ho]
    have hcancelled : (σ.step .statusChange (.turn j)).Cancelled u ↔ σ.Cancelled u := by
      refine (effect_step htouches hcancels (.turn j) u).cancelled_iff fun i o' he' ho' => ?_
      obtain rfl := ServiceEvent.turn.inj he'
      obtain rfl := Option.some.inj (ho.symm.trans ho')
      exact request_ne_of_runId? hrun
    rw [propext hcancelled, hstore]
    exact (h.runs j o u ho hrun).turn hrun (hnow j o ho) fun id hid => hstore ▸ hstill id hid
  · rw [runId?_answer] at hrun
    have hstore : (σ.step .statusChange (.answer j course)).store = σ.store := by
      simp only [Service.step]
      split <;> rfl
    have hcancelled : (σ.step .statusChange (.answer j course)).Cancelled u ↔ σ.Cancelled u :=
      (effect_step htouches hcancels (.answer j course) u).cancelled_iff fun i o' he' => by cases he'
    rw [propext hcancelled, hstore]
    exact (h.runs j o u ho hrun).answer course

theorem recorded_run (s : Store) (events : List ServiceEvent)
    (hnow : ∀ request setting, .begin request setting ∈ events → setting.now.Storable)
    (hunique : (events.filterMap ServiceEvent.runId?).Nodup)
    (hnew : ∀ u ∈ events.filterMap ServiceEvent.runId?, s.executionsOf u = []) :
    Recorded s ((start s).run .statusChange events) := by
  induction events using List.reverseRecOn with
  | nil =>
    refine ⟨fun row hrow => .inl ⟨row, hrow, rfl⟩, fun u hu => ?_, fun j o u ho => ?_⟩
    · obtain ⟨j, o, ho, -⟩ := hu
      simp [start, run] at ho
    · simp [start, run] at ho
  | append_singleton events e ih =>
    rw [List.filterMap_append] at hunique hnew
    have hbefore := ih (fun request setting hmem => hnow request setting (List.mem_append_left _ hmem))
      (List.nodup_append.mp hunique).1 fun u hu => hnew u (List.mem_append_left _ hu)
    have hids := filterMap_runId?_step .statusChange ((start s).run .statusChange events) e
    rw [filterMap_runId?_run] at hids
    rw [run_concat]
    refine hbefore.step (touchesOwn_run .statusChange s events) (cancelsWhole_run s events) (fun j o ho => ?_)
      (by rw [hids]; exact hnew) (by rw [hids]; exact hunique)
    exact hnow o.request o.setting (List.mem_append_left _ (begin_mem .statusChange s events j o ho))

end Service

namespace ExecutionRow

structure Completed (row : ExecutionRow) (format : ExportFormat) (count : UInt64) (bytes : ByteArray) : Prop where
  status : row.status = "completed"
  recordCount? : ∃ n, row.recordCount? = some n ∧ (count.toNat < 2 ^ 63 → n.toInt = count.toNat)
  fileSize? : ∃ n, row.fileSize? = some n ∧ (bytes.size < 2 ^ 63 → n.toInt = bytes.size)
  fileKey? : row.fileKey? = some ("reports/" ++ row.id ++ "." ++ format.extension)
  completedAt? : row.completedAt?.isSome = true
  error? : row.error? = none

structure Failed (row : ExecutionRow) (message : String) : Prop where
  status : row.status = "failed"
  recordCount? : row.recordCount? = none
  fileSize? : row.fileSize? = none
  fileKey? : row.fileKey? = none
  completedAt? : row.completedAt?.isSome = true
  error? : row.error? = some message

theorem completed_ofExecution (r : RunRequest) (count : UInt64) (data : Rendering) :
    Completed (.ofExecution (r.completed count data)) r.format count (data.bytes r.formats) where
  status := rfl
  recordCount? := by
    refine ⟨count.toInt64, rfl, fun hcount => ?_⟩
    calc count.toInt64.toInt
        = (UInt64.ofNat count.toNat).toInt64.toInt := by rw [UInt64.ofNat_toNat]
      _ = (Int64.ofNat count.toNat).toInt := by rw [UInt64.toInt64_ofNat']
      _ = count.toNat := Int64.toInt_ofNat_of_lt hcount
  fileSize? := ⟨Int64.ofNat (data.bytes r.formats).size, rfl, Int64.toInt_ofNat_of_lt⟩
  fileKey? := by
    simp [ofExecution, RunRequest.completed, Execution.succeeded, Execution.fileKeyOf, Execution.pending, toString]
  completedAt? := rfl
  error? := rfl

theorem failed_ofExecution (r : RunRequest) (cause : Fault) :
    Failed (.ofExecution (r.failed cause)) cause.message := ⟨rfl, rfl, rfl, rfl, rfl, rfl⟩

theorem failed_ofExecution_cancelledAt (r : RunRequest) (time : Moment) :
    Failed (.ofExecution (r.cancelledAt time)) Reporting.cancelledByUser := ⟨rfl, rfl, rfl, rfl, rfl, rfl⟩

end ExecutionRow

theorem RunRequest.Stage.outcome {r : RunRequest} {cancelled : Prop} {rows : List ExecutionRow}
    {course? : Option FetchCourse} {result : Except Fault Answer} :
    r.Stage cancelled rows course? (.done result) → ∃ row, rows = [row] ∧
      match result with
      | .ok answer => ¬ cancelled ∧ ∃ out fetched, answer = .output out ∧
          course? = some (.answered fetched) ∧ row = .ofExecution out.execution ∧
          row.Completed r.format fetched.count (out.data.bytes r.formats)
      | .error f => (cancelled → row.Failed Reporting.cancelledByUser) ∧ (¬ cancelled → row.Failed f.message) := by
  intro h
  cases h with
  | @completed fetched data hcancelled hrows =>
    exact ⟨_, hrows, hcancelled, _, fetched, rfl, rfl, rfl, ExecutionRow.completed_ofExecution r _ data⟩
  | @failed _ f hheld =>
    rcases hheld with ⟨hcancelled, hrows⟩ | ⟨hcancelled, time, -, hrows⟩
    · exact ⟨_, hrows, fun h => absurd h hcancelled, fun _ => ExecutionRow.failed_ofExecution r f⟩
    · exact ⟨_, hrows, fun _ => ExecutionRow.failed_ofExecution_cancelledAt r time,
        fun h => absurd hcancelled h⟩

namespace Service

structure Truthful (s : Store) (σ : Service) : Prop where
  made : ∀ row ∈ σ.store.executions, (∃ row' ∈ s.executions, row'.id = row.id) ∨
    ∃ o ∈ σ.calls, ∃ r, o.admission? = some (.ok r) ∧ row.id = r.id.toText
  decided : ∀ o ∈ σ.calls, ∀ u result, o.runId? = some u → o.call = .done result → o.admission? ≠ none
  refused : ∀ o ∈ σ.calls, ∀ u f, o.runId? = some u → o.admission? = some (.error f) →
    o.call = .done (.error f) ∧ σ.store.executionsOf u = []
  ended : ∀ o ∈ σ.calls, ∀ r result, o.admission? = some (.ok r) → o.call = .done result →
    o.runId? = some r.id ∧ o.request.runFormat? = some r.format ∧ ∃ row, σ.store.executionsOf r.id = [row] ∧
      match result with
      | .ok answer => ¬ σ.Cancelled r.id ∧ ∃ out fetched, answer = .output out ∧
          o.course? = some (.answered fetched) ∧ row = .ofExecution out.execution ∧
          row.Completed r.format fetched.count (out.data.bytes o.setting.formats)
      | .error f => (σ.Cancelled r.id → row.Failed Reporting.cancelledByUser) ∧
          (¬ σ.Cancelled r.id → row.Failed f.message)

theorem Recorded.run_of_mem (h : Recorded s σ) {o : Ongoing} (ho : o ∈ σ.calls) {u : Uuid}
    (hrun : o.runId? = some u) : o.Recorded σ.store (σ.Cancelled u) u := by
  obtain ⟨j, hj⟩ := List.mem_iff_getElem?.mp ho
  exact h.runs j o u hj hrun

theorem Recorded.admitted_of_row (h : Recorded s σ) {row : ExecutionRow} (hrow : row ∈ σ.store.executions) :
    (∃ row' ∈ s.executions, row'.id = row.id) ∨
      ∃ o ∈ σ.calls, ∃ r, o.admission? = some (.ok r) ∧ row.id = r.id.toText := by
  rcases h.ids row hrow with hfirst | ⟨u, hu, hid⟩
  · exact .inl hfirst
  obtain ⟨o, ho, hrun⟩ := List.mem_filterMap.mp hu
  have hmem : row ∈ σ.store.executionsOf u := List.mem_filter.mpr ⟨hrow, by simp [hid]⟩
  have hrecorded := h.run_of_mem ho hrun
  -- a run that is not admitted has no execution
  cases hadmission : o.admission? with
  | none =>
    simp only [Ongoing.Recorded, hadmission] at hrecorded
    rw [hrecorded.2.1] at hmem
    cases hmem
  | some a =>
    cases a with
    | error f =>
      simp only [Ongoing.Recorded, hadmission] at hrecorded
      rw [hrecorded.2.1] at hmem
      cases hmem
    | ok r =>
      have hsame := (Ongoing.of_admission? hadmission).1
      obtain rfl : r.id = u := Option.some.inj (hsame.symm.trans hrun)
      exact .inr ⟨o, ho, r, hadmission, hid⟩

/-- Whatever calls are made and however they take turns, the executions tell the truth, as long as times can be
read back from the store and identifiers are made once. -/
theorem run_truthful (s : Store) (events : List ServiceEvent)
    (hnow : ∀ request setting, .begin request setting ∈ events → setting.now.Storable)
    (hunique : (events.filterMap ServiceEvent.runId?).Nodup)
    (hnew : ∀ u ∈ events.filterMap ServiceEvent.runId?, s.executionsOf u = []) :
    Truthful s ((start s).run .statusChange events) := by
  have hrecorded := recorded_run s events hnow hunique hnew
  constructor
  · intro row hrow
    exact hrecorded.admitted_of_row hrow
  · intro o ho u result hrun hdone hnone
    have hlooks := hrecorded.run_of_mem ho hrun
    simp only [Ongoing.Recorded, hnone] at hlooks
    obtain ⟨-, -, id, format, agent?, -, -, hlooking⟩ := hlooks
    rw [hdone] at hlooking
    cases hlooking
  · intro o ho u f hrun hrefused
    have hnothing := hrecorded.run_of_mem ho hrun
    simp only [Ongoing.Recorded, hrefused] at hnothing
    exact ⟨hnothing.2.2, hnothing.2.1⟩
  · intro o ho r result hadmitted hdone
    obtain ⟨hid, hformat, -, -, hformats⟩ := Ongoing.of_admission? hadmitted
    have hstage := hrecorded.run_of_mem ho hid
    simp only [Ongoing.Recorded, hadmitted, hdone] at hstage
    rw [← hformats]
    exact ⟨hid, hformat, hstage.2.outcome⟩

def cancelledRun : List ServiceEvent :=
  [.begin (.executeQuery projectNames "Projects" .json none) atNoon, .begin (.cancelExecution .nil) atNoon,
    .turn 0, .turn 0, .turn 1, .answer 0 (.answered ⟨[], 3⟩), .turn 0, .turn 0]

theorem run_truthful_cancelledRun :
    Truthful .empty ((start .empty).run .statusChange cancelledRun) ∧
      (((start .empty).run .statusChange cancelledRun).store.executionsOf .nil).map
        (fun row => (row.status, row.error?)) = [("failed", some "Cancelled by user")] := by
  refine ⟨run_truthful .empty cancelledRun (fun request setting hmem => ?_) (by decide +kernel)
    (fun u _ => rfl), ?_⟩
  · have hsetting : setting = atNoon := by
      simp [cancelledRun] at hmem
      rcases hmem with hmem | hmem
      · exact hmem.2
      · exact hmem.2
    subst hsetting
    exact ⟨by decide +kernel, by decide, by decide, by decide⟩
  · decide +kernel

end Service

end PortfolioReports
