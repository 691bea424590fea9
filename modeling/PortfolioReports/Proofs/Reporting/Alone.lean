import PortfolioReports.Reporting.Call

namespace PortfolioReports.Call

variable {α β : Type} {source : StatementPair → FetchCourse} {s : Store}

theorem run_bind (source : StatementPair → FetchCourse) (x : Call α) (k : α → Call β) (s : Store) :
    (x >>= k).run source s = match x.run source s with
      | (s', .ok a) => (k a).run source s'
      | (s', .error cause) => (s', .error cause) := by
  induction x generalizing s with
  | done result => cases result <;> rfl
  | access kind change next ih => exact ih s (change s)
  | fetch queries next ih => exact ih (source queries) s

theorem run_insert (source : StatementPair → FetchCourse) (put : Store → Except StoreFault Store) (s : Store) :
    (Call.insert put).run source s = match put s with
      | .ok s' => (s', .ok ())
      | .error cause => (s, .error (.database cause)) := by
  show (Call.ofStore ((put s).map fun _ => ())).run source ((put s).toOption.getD s) = _
  cases put s <;> rfl

theorem run_change (source : StatementPair → FetchCourse) (f : Store → Store × α) (s : Store) :
    (Call.change f).run source s = ((f s).1, .ok (f s).2) := rfl

theorem exists_run_eq_of_isOk {x : Call α} (h : (x.run source s).2.isOk = true) :
    ∃ a, x.run source s = ((x.run source s).1, .ok a) := by
  rcases hran : x.run source s with ⟨s', cause | a⟩
  · rw [hran] at h
    cases h
  · exact ⟨a, rfl⟩

/-- The call leaves the store as it is if it fails, and otherwise `Q` holds of what it leaves and answers. -/
def Settles (source : StatementPair → FetchCourse) (s : Store) (Q : Store → α → Prop) (x : Call α) : Prop :=
  match x.run source s with
  | (s', .ok a) => Q s' a
  | (s', .error _) => s' = s

abbrev Looks (source : StatementPair → FetchCourse) (s : Store) (R : α → Prop) (x : Call α) : Prop :=
  x.Settles source s fun s' a => s' = s ∧ R a

namespace Settles

variable {Q : Store → α → Prop}

theorem mono {Q' : Store → α → Prop} {x : Call α} (hx : x.Settles source s Q) (h : ∀ s' a, Q s' a → Q' s' a) :
    x.Settles source s Q' := by
  unfold Settles at hx ⊢
  split at hx
  · exact h _ _ hx
  · exact hx

theorem run_cases {x : Call α} (hx : x.Settles source s Q) :
    (∃ s' a, x.run source s = (s', .ok a) ∧ Q s' a) ∨ ∃ cause, x.run source s = (s, .error cause) := by
  unfold Settles at hx
  split at hx
  · rename_i s' a hrun
    exact .inl ⟨s', a, hrun, hx⟩
  · rename_i s' cause hrun
    exact .inr ⟨cause, hx ▸ hrun⟩

theorem pure {a : α} (h : Q s a) : (Pure.pure a : Call α).Settles source s Q := h

theorem fail (cause : Fault) : (Call.fail cause : Call α).Settles source s Q := rfl

theorem bind {R : α → Prop} {Q : Store → β → Prop} {x : Call α} {k : α → Call β} (hx : x.Looks source s R)
    (hk : ∀ a, R a → (k a).Settles source s Q) : (x >>= k).Settles source s Q := by
  unfold Looks Settles at hx
  unfold Settles
  rw [run_bind]
  split at hx
  · obtain ⟨rfl, ha⟩ := hx
    exact hk _ ha
  · exact hx

theorem map {Q : Store → β → Prop} {x : Call α} {g : α → β} (hx : x.Settles source s fun s' a => Q s' (g a)) :
    (g <$> x).Settles source s Q := by
  unfold Settles at hx ⊢
  rw [show g <$> x = x >>= fun a => Pure.pure (g a) from rfl, run_bind]
  split at hx
  · exact hx
  · exact hx

theorem check {result : Except Fault α} : (Call.check result).Looks source s fun a => result = .ok a := by
  cases result with
  | ok a => exact ⟨rfl, rfl⟩
  | error cause => rfl

theorem read {table : StoreTable} {get : Store → Except StoreFault α} :
    (Call.read table get).Looks source s fun a => get s = .ok a := by
  show (Call.ofStore (get s)).Looks source s fun a => get s = .ok a
  cases get s with
  | ok a => exact ⟨rfl, rfl⟩
  | error cause => rfl

theorem found (missing : Missing) (a? : Option α) : (Call.found missing a?).Looks source s fun a => a? = some a := by
  cases a? with
  | some a => exact ⟨rfl, rfl⟩
  | none => rfl

theorem readFound {table : StoreTable} {get : Store → Except StoreFault (Option α)} {missing : Missing} :
    (Call.read table get >>= Call.found missing).Looks source s fun a => get s = .ok (some a) :=
  read.bind fun a? hread => (found missing a?).mono fun _ _ h => ⟨h.1, hread.trans (congrArg Except.ok h.2)⟩

theorem requireText (text : String) (cause : ConfigFault) :
    (Call.requireText text cause).Looks source s fun _ => True := by
  unfold Call.requireText
  split
  · exact fail _
  · exact pure ⟨rfl, trivial⟩

theorem insert {put : Store → Except StoreFault Store} {a : α} (h : ∀ s', put s = .ok s' → Q s' a) :
    (Call.insert put >>= fun _ => Pure.pure a).Settles source s Q := by
  unfold Settles
  rw [run_bind, run_insert]
  cases hput : put s with
  | ok s' => exact h s' hput
  | error cause => rfl

theorem change {f : Store → Store × α} (h : Q (f s).1 (f s).2) : (Call.change f).Settles source s Q := h

theorem change_pure {f : Store → Store × β} {a : α} (h : Q (f s).1 a) :
    (Call.change f >>= fun _ => Pure.pure a).Settles source s Q := h

theorem changed {Q : Store → Unit → Prop} {f : Store → Store × Bool} {missing : Missing}
    (hno : (f s).2 = false → (f s).1 = s) (hyes : (f s).2 = true → Q (f s).1 ()) :
    (Call.change f >>= fun wasThere => Call.changed missing wasThere).Settles source s Q := by
  unfold Settles
  rw [run_bind, run_change]
  cases hfound : (f s).2 with
  | true => exact hyes hfound
  | false => exact hno hfound

theorem changed_pure {f : Store → Store × Bool} {missing : Missing} {a : α} (hno : (f s).2 = false → (f s).1 = s)
    (hyes : (f s).2 = true → Q (f s).1 a) :
    (Call.change f >>= fun wasThere => Call.changed missing wasThere >>= fun _ => Pure.pure a).Settles source s Q := by
  unfold Settles
  rw [run_bind, run_change]
  cases hfound : (f s).2 with
  | true => exact hyes hfound
  | false => exact hno hfound

end Settles

end PortfolioReports.Call
