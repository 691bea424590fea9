import PortfolioReports.Proofs.Reporting.Accesses
import PortfolioReports.Proofs.Reporting.NextTurn
import PortfolioReports.Proofs.Reporting.ReportUpdates
import PortfolioReports.Proofs.Success

namespace PortfolioReports

open Call Reporting

namespace Store

structure Buries (s : Store) (u : Uuid) : Prop where
  there : s.reportsOf u ≠ []
  dead : ∀ r ∈ s.reportsOf u, r.isLive = false

variable {s : Store} {u : Uuid}

theorem Buries.of_reportsOf_eq {s' : Store} (h : s.Buries u) (hsame : s'.reportsOf u = s.reportsOf u) : s'.Buries u :=
  ⟨hsame ▸ h.there, hsame ▸ h.dead⟩

theorem Buries.any_isLiveWith (h : s.Buries u) : s.reports.any (ReportRow.isLiveWith u) = false := by
  rw [Store.any_isLiveWith, List.any_eq_false]
  intro r hr hlive
  rw [h.dead r hr] at hlive
  cases hlive

theorem Buries.getReport (h : s.Buries u) : s.getReport u = .ok none := by
  have hnone : (s.reportsOf u).find? ReportRow.isLive = none := by
    rw [List.find?_eq_none]
    intro r hr hlive
    rw [h.dead r hr] at hlive
    cases hlive
  rw [getReport_eq, readFirst, hnone]

theorem buries_deleteReport (hlive : s.reports.any (ReportRow.isLiveWith u) = true) (now : Calendar.Moment) :
    (s.deleteReport u now).1.Buries u := by
  have hreports : (s.deleteReport u now).1.reports = change (ReportRow.isLiveWith u)
      (fun r => { r with deletedAt? := some (Calendar.utcText now) }) s.reports := rfl
  have hrows := reportsOf_change hreports (fun _ => rfl) u
  constructor
  · intro hnil
    rw [hrows, change, List.map_eq_nil_iff] at hnil
    rw [any_isLiveWith, hnil] at hlive
    cases hlive
  · rw [hrows]
    refine List.forall_mem_map.mpr fun r hr => ?_
    split
    · rfl
    · rename_i hdead
      have hid : (r.id == u.toText) = true := (List.mem_filter.mp hr).2
      simpa [ReportRow.isLiveWith, hid] using hdead

end Store

namespace ReportChange

variable {f : Store → Store} {s : Store} {u : Uuid}

theorem reportsOf (h : ReportChange f) (hu : s.Buries u) : (f s).reportsOf u = s.reportsOf u := by
  cases h with
  | keep h => rw [Store.reportsOf, h s, Store.reportsOf]
  | insert x h =>
    rw [h s, Store.insertReport]
    split
    · rfl
    · rename_i hnew
      have hne : (x.id.toText == u.toText) = false := by
        rw [beq_eq_false_iff_ne]
        intro heq
        exact hnew (heq ▸ Store.hasReport_iff.mpr hu.there)
      simp [Except.toOption, Store.reportsOf, ReportRow.ofReport, hne]
  | edit id hg h =>
    rw [Store.reportsOf_change (h s) hg]
    refine Store.change_of_forall_not fun r hr => ?_
    rw [ReportRow.isLiveWith, hu.dead r hr, Bool.false_and]

theorem buries (h : ReportChange f) (hu : s.Buries u) : (f s).Buries u := hu.of_reportsOf_eq (h.reportsOf hu)

end ReportChange

section Begin

variable {u : Uuid} {s : Store}

theorem turn_deleteReport (u : Uuid) (c : CallSetting) (s : Store) :
    ((Request.deleteReport u).call c).turn .access s = ((s.deleteReport u c.now).1,
      .done (if s.reports.any (ReportRow.isLiveWith u) then .ok .nothing else .error (.notFound (.report u)))) := by
  have hturn : ((Request.deleteReport u).call c).turn .access s = ((s.deleteReport u c.now).1,
      (fun _ => .nothing) <$> changed (.report u) (s.reports.any (ReportRow.isLiveWith u))) := rfl
  rw [hturn]
  cases s.reports.any (ReportRow.isLiveWith u) with
  | true => rfl
  | false => rfl

end Begin

namespace Service

def Deleted (σ : Service) (u : Uuid) : Prop :=
  ∃ (j : Nat) (o : Ongoing), σ.calls[j]? = some o ∧ o.request = .deleteReport u ∧ o.call = .done (.ok .nothing)

theorem endsIn_deleteReport {r : Request} {u : Uuid} (c : CallSetting) (hr : r = .deleteReport u) :
    (r.call c).EndsIn (fun _ => True) fun _ => True := by
  intro s _
  rw [hr, turn_deleteReport]
  exact ⟨_, rfl, trivial⟩

variable {s : Store} {before events : List ServiceEvent} {u : Uuid}

theorem deleted_step {e : ServiceEvent} (h : ((start s).run .access (events ++ [e])).Deleted u) :
    ((start s).run .access events).Deleted u ∨ ((start s).run .access (events ++ [e])).store.Buries u := by
  have honce := fun r c => endsIn_deleteReport (r := r) (u := u) c
  obtain ⟨j, o', ho', hrequest, hdone⟩ := h
  rw [run_concat] at ho' ⊢
  rcases getElem?_step ho' with ⟨-, request, setting, -, rfl⟩ | ⟨o, ho, ⟨rfl, -⟩ | ⟨rfl, rfl⟩ | ⟨course, -, rfl⟩⟩
  · obtain rfl : request = .deleteReport u := hrequest
    cases hdone
  · exact .inl ⟨j, _, ho, hrequest, hdone⟩
  · have hrequest : o.request = .deleteReport u := hrequest
    rcases oneTurn_run honce s events j o ho hrequest with hcall | ⟨result, hresult⟩
    · right
      rw [hrequest] at hcall
      rw [Ongoing.turn, hcall, turn_deleteReport] at hdone
      rw [store_turn .access ho, hcall, turn_deleteReport]
      refine Store.buries_deleteReport ?_ _
      cases hlive : ((start s).run .access events).store.reports.any (ReportRow.isLiveWith u) with
      | true => rfl
      | false =>
        rw [hlive] at hdone
        cases hdone
    · left
      rw [Ongoing.turn, hresult] at hdone
      exact ⟨j, o, ho, hrequest, hresult.trans hdone⟩
  · left
    rw [(request_answer course o).1] at hrequest
    have hends := endsIn_oneTurn_run honce s events j o ho hrequest
    rw [answer_of_not_fetch (hends.ne_fetch (s := s) trivial)] at hdone
    exact ⟨j, o, ho, hrequest, hdone⟩

theorem buries_run (h : ((start s).run .access before).store.Buries u) (middle : List ServiceEvent) :
    ((start s).run .access (before ++ middle)).store.Buries u ∧
      ((start s).run .access (before ++ middle)).store.reportsOf u =
        ((start s).run .access before).store.reportsOf u := by
  induction middle using List.reverseRecOn with
  | nil => simpa using h
  | append_singleton middle e ih =>
    obtain ⟨hburies, hsame⟩ := ih
    obtain ⟨f, hf, hstore⟩ := reportChange_step s (before ++ middle) e
    rw [← List.append_assoc, hstore]
    exact ⟨hf.buries hburies, (hf.reportsOf hburies).trans hsame⟩

theorem Deleted.buries (h : ((start s).run .access events).Deleted u) :
    ((start s).run .access events).store.Buries u := by
  induction events using List.reverseRecOn with
  | nil =>
    obtain ⟨j, o, ho, -⟩ := h
    simp [start, run] at ho
  | append_singleton events e ih =>
    rcases deleted_step h with hold | hburies
    · exact (buries_run (ih hold) [e]).1
    · exact hburies

section After

variable (h : ((start s).run .access before).store.Buries u) (middle : List ServiceEvent) {j : Nat} {o : Ongoing}
  (ho : ((start s).run .access (before ++ middle)).calls[j]? = some o)

include h ho

end After

end Service

end PortfolioReports
