import PortfolioReports.Proofs.Reporting.Touches

namespace PortfolioReports

open Calendar Call RunStage

namespace Service

/-- Someone has cancelled the execution, and was told so. -/
def Cancelled (σ : Service) (u : Uuid) : Prop :=
  ∃ (j : Nat) (o : Ongoing), σ.calls[j]? = some o ∧ o.request = .cancelExecution u ∧ ∃ a, o.call = .done (.ok a)

def CancelsAlone (σ : Service) : Prop :=
  ∀ (j : Nat) (o : Ongoing) (u : Uuid), σ.calls[j]? = some o → o.request = .cancelExecution u →
    ∀ queries next, o.call ≠ .fetch queries next

def CancelsWhole (σ : Service) : Prop :=
  ∀ (j : Nat) (o : Ongoing) (u : Uuid), σ.calls[j]? = some o → o.request = .cancelExecution u →
    o.call = cancelling u o.setting.now ∨ ∃ result, o.call = .done result

theorem CancelsWhole.alone {σ : Service} (h : σ.CancelsWhole) : σ.CancelsAlone := by
  intro j o u ho hrequest queries next
  rcases h j o u ho hrequest with hcall | ⟨result, hcall⟩
  · rw [hcall]
    exact nofun
  · rw [hcall]
    exact nofun

theorem answer_of_not_fetch {o : Ongoing} {course : FetchCourse}
    (h : ∀ queries next, o.call ≠ .fetch queries next) :
    o.answer course = o := by
  unfold Ongoing.answer
  split
  · exact absurd ‹_› (h _ _)
  · rfl

theorem turn_cancelling (u : Uuid) (now : Moment) (s : Store) :
    (∃ f, (cancelling u now).turn .statusChange s = (s, .done (.error f))) ∨
      ∃ x, s.statusChange u .failed (fun e => e.stopped Reporting.cancelledByUser now) = .ok x ∧
        (cancelling u now).turn .statusChange s = ((s.updateExecution x).1, .done (.ok (.execution x))) := by
  cases hs : s.statusChange u .failed (fun e => e.stopped Reporting.cancelledByUser now) with
  | error f => exact .inl ⟨f, turn_changing_error hs⟩
  | ok x => exact .inr ⟨x, rfl, turn_changing_ok hs⟩

variable {σ : Service} {u : Uuid}

theorem CancelsWhole.step (h : σ.CancelsWhole) (e : ServiceEvent) : (σ.step .statusChange e).CancelsWhole := by
  intro j o' u ho' hrequest
  rcases getElem?_step ho' with ⟨-, request, setting, -, rfl⟩ | ⟨o, ho, ⟨rfl, -⟩ | ⟨-, rfl⟩ | ⟨course, -, rfl⟩⟩
  · obtain rfl : request = .cancelExecution u := hrequest
    exact .inl (call_cancelExecution u setting)
  · exact h j _ u ho hrequest
  · refine .inr ?_
    cases h j o u ho hrequest with
    | inl hcall =>
      simp only [Ongoing.turn, hcall]
      rcases turn_cancelling u o.setting.now σ.store with ⟨f, hturn⟩ | ⟨x, -, hturn⟩
      · exact ⟨_, by rw [hturn]⟩
      · exact ⟨_, by rw [hturn]⟩
    | inr hdone =>
      obtain ⟨result, hcall⟩ := hdone
      exact ⟨result, by simp only [Ongoing.turn, hcall, Call.turn]⟩
  · obtain ⟨hsame, hsetting, -⟩ := request_answer course o
    rw [hsame] at hrequest
    rw [answer_of_not_fetch (h.alone j o u ho hrequest)]
    exact h j o u ho hrequest

theorem cancelsWhole_run (s : Store) (events : List ServiceEvent) :
    ((start s).run .statusChange events).CancelsWhole := by
  induction events using List.reverseRecOn with
  | nil => intro j o u ho; simp [start, run] at ho
  | append_singleton events e ih =>
    rw [run_concat]
    exact ih.step e

theorem done_step {g : Stride} {j : Nat} {o : Ongoing} (e : ServiceEvent) (ho : σ.calls[j]? = some o)
    {result : Except Fault Answer} (hdone : o.call = .done result) :
    ∃ o', (σ.step g e).calls[j]? = some o' ∧ o'.request = o.request ∧ o'.call = .done result := by
  obtain ⟨o', ho'⟩ := exists_getElem?_step g e ho
  refine ⟨o', ho', ?_⟩
  rcases getElem?_step ho' with ⟨hj, -⟩ | ⟨o₁, ho₁, hcase⟩
  · have hlt := (List.getElem?_eq_some_iff.mp ho).1
    omega
  · obtain rfl : o = o₁ := Option.some.inj (ho.symm.trans ho₁)
    rcases hcase with ⟨rfl, -⟩ | ⟨-, rfl⟩ | ⟨course, -, rfl⟩
    · exact ⟨rfl, hdone⟩
    · exact ⟨rfl, by simp only [Ongoing.turn, hdone, Call.turn]⟩
    · rw [answer_of_not_fetch fun queries next => by simp [hdone]]
      exact ⟨rfl, hdone⟩

theorem cancelled_step (g : Stride) (h : σ.CancelsAlone) (e : ServiceEvent) (u : Uuid) :
    (σ.step g e).Cancelled u ↔ σ.Cancelled u ∨ ∃ (i : Nat) (o : Ongoing) (a : Answer), e = .turn i ∧
      σ.calls[i]? = some o ∧ o.request = .cancelExecution u ∧ (o.call.turn g σ.store).2 = .done (.ok a) := by
  constructor
  · rintro ⟨j, o', ho', hrequest, a, hdone⟩
    rcases getElem?_step ho' with ⟨-, request, setting, -, rfl⟩ | ⟨o, ho, ⟨rfl, -⟩ | ⟨he, rfl⟩ | ⟨course, -, rfl⟩⟩
    · obtain rfl : request = .cancelExecution u := hrequest
      have hcall : (Ongoing.begin (.cancelExecution u) setting).call = cancelling u setting.now :=
        call_cancelExecution u setting
      rw [hcall] at hdone
      cases hdone
    · exact .inl ⟨j, _, ho, hrequest, a, hdone⟩
    · exact .inr ⟨j, o, a, he, ho, hrequest, hdone⟩
    · rw [(request_answer course o).1] at hrequest
      rw [answer_of_not_fetch (h j o u ho hrequest)] at hdone
      exact .inl ⟨j, o, ho, hrequest, a, hdone⟩
  · rintro (⟨j, o, ho, hrequest, a, hdone⟩ | ⟨i, o, a, rfl, ho, hrequest, hdone⟩)
    · obtain ⟨o', ho', hsame, hdone'⟩ := done_step (g := g) e ho hdone
      exact ⟨j, o', ho', hsame.trans hrequest, a, hdone'⟩
    · refine ⟨i, o.turn g σ.store, ?_, hrequest, a, hdone⟩
      have hlt := (List.getElem?_eq_some_iff.mp ho).1
      simp only [step, ho]
      simp [hlt]

theorem runId?_of_execution? {o : Ongoing} (h : o.request.execution? o.setting = some u) :
    o.request = .cancelExecution u ∨ o.runId? = some u := by
  unfold Request.execution? at h
  split at h
  · exact .inl (congrArg Request.cancelExecution (Option.some.inj h) ▸ ‹_›)
  · exact .inr h

inductive Effect (σ : Service) (e : ServiceEvent) (u : Uuid) : Prop where
  | none (hrows : (σ.step .statusChange e).store.executionsOf u = σ.store.executionsOf u)
      (hcancelled : (σ.step .statusChange e).Cancelled u ↔ σ.Cancelled u)
  | own {i : Nat} {o : Ongoing} (he : e = .turn i) (ho : σ.calls[i]? = some o) (hrun : o.runId? = some u)
      (hstore : (σ.step .statusChange e).store = (o.call.turn .statusChange σ.store).1)
      (hcancelled : (σ.step .statusChange e).Cancelled u ↔ σ.Cancelled u)
  | cancel {i : Nat} {o : Ongoing} {x : Execution} (he : e = .turn i) (ho : σ.calls[i]? = some o)
      (hrequest : o.request = .cancelExecution u)
      (hx : σ.store.statusChange u .failed (fun e => e.stopped Reporting.cancelledByUser o.setting.now) = .ok x)
      (hstore : (σ.step .statusChange e).store = (σ.store.updateExecution x).1)
      (hcancelled : (σ.step .statusChange e).Cancelled u)

theorem effect_step (htouches : σ.TouchesOwn) (hcancels : σ.CancelsWhole) (e : ServiceEvent) (u : Uuid) :
    σ.Effect e u := by
  have hiff := cancelled_step .statusChange hcancels.alone e u
  by_cases hturn : ∃ (i : Nat) (o : Ongoing), e = .turn i ∧ σ.calls[i]? = some o
  · obtain ⟨i, o, rfl, ho⟩ := hturn
    have hstep : σ.step .statusChange (.turn i) =
        ⟨(o.call.turn .statusChange σ.store).1, σ.calls.set i (o.turn .statusChange σ.store)⟩ := by
      simp only [step, ho]
    have hbeside := ((htouches i o ho).turn .statusChange σ.store).2
    -- only a turn that cancels makes a difference to whether the execution is cancelled
    have hquiet : (∀ a, o.request = .cancelExecution u → (o.call.turn .statusChange σ.store).2 = .done (.ok a) →
        σ.Cancelled u) → ((σ.step .statusChange (.turn i)).Cancelled u ↔ σ.Cancelled u) := by
      intro hsame
      rw [hiff]
      refine ⟨fun hcancelled => ?_, .inl⟩
      rcases hcancelled with hcancelled | ⟨i', o', a, he, ho', hrequest, hdone⟩
      · exact hcancelled
      · obtain rfl : i = i' := ServiceEvent.turn.inj he
        obtain rfl : o = o' := Option.some.inj (ho.symm.trans ho')
        exact hsame a hrequest hdone
    by_cases hcancel : o.request = .cancelExecution u
    · rcases hcancels i o u ho hcancel with hcall | ⟨result, hcall⟩
      · rcases turn_cancelling u o.setting.now σ.store with ⟨f, hfault⟩ | ⟨x, hx, hdone⟩
        · refine .none (by rw [hstep, hcall, hfault]) (hquiet fun a _ hdone => ?_)
          rw [hcall, hfault] at hdone
          cases hdone
        · have hmark := hiff.mpr (.inr ⟨i, o, .execution x, rfl, ho, hcancel, by rw [hcall, hdone]⟩)
          exact .cancel rfl ho hcancel hx (by rw [hstep, hcall, hdone]) hmark
      · have hnothing : o.call.turn .statusChange σ.store = (σ.store, o.call) := by simp only [hcall, Call.turn]
        refine .none (by rw [hstep, hnothing]) (hquiet fun a hrequest hdone => ?_)
        rw [hnothing] at hdone
        exact ⟨i, o, ho, hrequest, a, hdone⟩
    · have hsame := hquiet fun _ hrequest _ => absurd hrequest hcancel
      by_cases hrun : o.runId? = some u
      · exact .own rfl ho hrun (by rw [hstep]) hsame
      · refine .none ?_ hsame
        rw [hstep]
        refine hbeside.others u fun htarget => ?_
        rcases runId?_of_execution? htarget with hrequest | hid
        · exact hcancel hrequest
        · exact hrun hid
  · refine .none ?_ (hiff.trans ⟨fun hcancelled => ?_, .inl⟩)
    · cases σ.store_step .statusChange e with
      | inl hsame => rw [hsame]
      | inr h =>
        obtain ⟨i, o, he, ho, -⟩ := h
        exact absurd ⟨i, o, he, ho⟩ hturn
    · rcases hcancelled with hcancelled | ⟨i, o, a, he, ho, -, -⟩
      · exact hcancelled
      · exact absurd ⟨i, o, he, ho⟩ hturn

theorem Effect.cancelled_iff {e : ServiceEvent} (h : σ.Effect e u) (hnot : ∀ (i : Nat) (o : Ongoing), e = .turn i →
      σ.calls[i]? = some o → o.request ≠ .cancelExecution u) :
    (σ.step .statusChange e).Cancelled u ↔ σ.Cancelled u := by
  cases h with
  | none hrows hcancelled => exact hcancelled
  | own he ho hrun hstore hcancelled => exact hcancelled
  | cancel he ho hrequest hx hstore hcancelled => exact absurd hrequest (hnot _ _ he ho)

theorem Effect.there_of_cancelled {e : ServiceEvent} (h : σ.Effect e u)
    (hthere : σ.Cancelled u → σ.store.executionsOf u ≠ []) (hu : (σ.step .statusChange e).Cancelled u) :
    σ.store.executionsOf u ≠ [] := by
  cases h with
  | none hrows hcancelled => exact hthere (hcancelled.mp hu)
  | own he ho hrun hstore hcancelled => exact hthere (hcancelled.mp hu)
  | cancel he ho hrequest hx hstore hcancelled =>
    intro hnone
    rw [Store.statusChange_of_nil hnone] at hx
    cases hx

theorem request_ne_of_runId? {o : Ongoing} {v : Uuid} (hrun : o.runId? = some u) :
    o.request ≠ .cancelExecution v := by
  intro hrequest
  rw [Ongoing.runId?, hrequest] at hrun
  cases hrun

end Service

end PortfolioReports
