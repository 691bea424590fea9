import PortfolioReports.Proofs.Reporting.Effects

namespace PortfolioReports

namespace Call

variable {α β : Type}

/-- In any store of a kind, the call ends with its next turn, and in a certain way. -/
def EndsIn (P : Store → Prop) (R : Except Fault α → Prop) (x : Call α) : Prop :=
  ∀ s, P s → ∃ result, (x.turn .access s).2 = .done result ∧ R result

namespace EndsIn

variable {P : Store → Prop} {R : Except Fault α → Prop} {x : Call α} {s : Store}

theorem turn (h : x.EndsIn P R) (hs : P s) : (x.turn .access s).2.EndsIn P R := by
  obtain ⟨result, hdone, hresult⟩ := h s hs
  rw [hdone]
  exact fun _ _ => ⟨result, rfl, hresult⟩

theorem done {result : Except Fault α} (h : R result) : (Call.done result).EndsIn P R :=
  fun _ _ => ⟨result, rfl, h⟩

theorem mono {R' : Except Fault α → Prop} (h : x.EndsIn P R) (hR : ∀ result, R result → R' result) :
    x.EndsIn P R' := by
  intro s hs
  obtain ⟨result, hdone, hresult⟩ := h s hs
  exact ⟨result, hdone, hR result hresult⟩

theorem ne_fetch (h : x.EndsIn P R) (hs : P s) (queries : StatementPair) (next : FetchCourse → Call α) :
    x ≠ .fetch queries next := by
  rintro rfl
  obtain ⟨result, hdone, -⟩ := h s hs
  cases hdone

theorem bind {R' : Except Fault β → Prop} {k : α → Call β} (h : x.EndsIn P R)
    (hok : ∀ a, R (.ok a) → ∃ result, k a = .done result ∧ R' result)
    (herror : ∀ cause, R (.error cause) → R' (.error cause)) : (x >>= k).EndsIn P R' := by
  have hend : ∀ result, R result → ∃ result', (.done result >>= k : Call β) = .done result' ∧ R' result' := by
    intro result hresult
    cases result with
    | ok a => exact hok a hresult
    | error cause => exact ⟨_, rfl, herror cause hresult⟩
  intro s hs
  obtain ⟨result, hdone, hresult⟩ := h s hs
  obtain ⟨result', hbind, hresult'⟩ := hend result hresult
  cases x with
  | done result =>
    cases hdone
    rw [hbind]
    exact ⟨result', rfl, hresult'⟩
  | access kind change next =>
    have hnext : next s = .done result := hdone
    have hturn : ((Call.access kind change next >>= k).turn .access s).2 = next s >>= k := rfl
    rw [hturn, hnext]
    exact ⟨result', hbind, hresult'⟩
  | fetch queries next => cases hdone

theorem read {Q : α → Prop} {table : StoreTable} {get : Store → Except StoreFault α}
    (h : ∀ s, P s → ∀ a, get s = .ok a → Q a) :
    (Call.read table get).EndsIn P fun result => ∀ a, result = .ok a → Q a := by
  intro s hs
  have hturn : ((Call.read table get).turn .access s).2 = ofStore (get s) := rfl
  rw [hturn]
  cases hget : get s with
  | ok a =>
    refine ⟨_, rfl, ?_⟩
    rintro a ⟨rfl⟩
    exact h s hs a hget
  | error cause => exact ⟨_, rfl, nofun⟩

end EndsIn

end Call

namespace Service

/-- Calls that would end with their next turn at first, and those of the same kind that begin later, do so at any time
as long as the store is of the kind for it. -/
theorem endsIn_run {s : Store} {before : List ServiceEvent} {P : Store → Prop} {R : Except Fault Answer → Prop}
    {W : Nat → Prop} {K : Request → Prop} (hP : ∀ middle, P ((start s).run .access (before ++ middle)).store)
    (hbegin : ∀ r c, K r → (Request.call c r).EndsIn P R)
    (hbefore : ∀ (j : Nat) (o : Ongoing), ((start s).run .access before).calls[j]? = some o → W j → K o.request →
      o.call.EndsIn P R) (middle : List ServiceEvent) :
    ∀ (j : Nat) (o : Ongoing), ((start s).run .access (before ++ middle)).calls[j]? = some o → W j → K o.request →
      o.call.EndsIn P R := by
  induction middle using List.reverseRecOn with
  | nil => simpa using hbefore
  | append_singleton middle e ih =>
    intro j o' ho' hj hrequest
    rw [← List.append_assoc, run_concat] at ho'
    rcases getElem?_step ho' with ⟨-, request, setting, -, rfl⟩ | ⟨o, ho, ⟨rfl, -⟩ | ⟨-, rfl⟩ | ⟨course, -, rfl⟩⟩
    · exact hbegin request setting hrequest
    · exact ih j _ ho hj hrequest
    · exact (ih j o ho hj hrequest).turn (hP middle)
    · rw [(request_answer course o).1] at hrequest
      have hends := ih j o ho hj hrequest
      rwa [answer_of_not_fetch (hends.ne_fetch (hP middle))]

section OneTurn

variable {K : Request → Prop} (hK : ∀ r c, K r → (Request.call c r).EndsIn (fun _ => True) fun _ => True) (s : Store)
  (events : List ServiceEvent)

include hK

theorem endsIn_oneTurn_run : ∀ (j : Nat) (o : Ongoing), ((start s).run .access events).calls[j]? = some o →
    K o.request → o.call.EndsIn (fun _ => True) fun _ => True := by
  intro j o ho
  have hnone : ∀ (j : Nat) (o : Ongoing), ((start s).run .access []).calls[j]? = some o → True → K o.request →
      o.call.EndsIn (fun _ => True) fun _ => True := by simp [start, run]
  exact endsIn_run (fun _ => trivial) hK hnone events j o ho trivial

theorem oneTurn_run : ∀ (j : Nat) (o : Ongoing), ((start s).run .access events).calls[j]? = some o → K o.request →
    o.call = o.request.call o.setting ∨ ∃ result, o.call = .done result := by
  induction events using List.reverseRecOn with
  | nil => simp [start, run]
  | append_singleton events e ih =>
    intro j o' ho' hrequest
    rw [run_concat] at ho'
    rcases getElem?_step ho' with ⟨-, request, setting, -, rfl⟩ | ⟨o, ho, ⟨rfl, -⟩ | ⟨-, rfl⟩ | ⟨course, -, rfl⟩⟩
    · exact .inl rfl
    · exact ih j _ ho hrequest
    · obtain ⟨result, hdone, -⟩ := endsIn_oneTurn_run hK s events j o ho hrequest _ trivial
      exact .inr ⟨result, hdone⟩
    · rw [(request_answer course o).1] at hrequest
      rw [answer_of_not_fetch ((endsIn_oneTurn_run hK s events j o ho hrequest).ne_fetch (s := s) trivial)]
      exact ih j o ho hrequest

end OneTurn

end Service

end PortfolioReports
