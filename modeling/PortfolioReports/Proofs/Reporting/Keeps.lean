import PortfolioReports.Proofs.Reporting.Interleaving

namespace PortfolioReports

namespace Call

variable {α β : Type} {P : Store → Prop} {Q : α → Prop} {R : β → Prop}

/-- Every access that the call may still make keeps `P`, and what the call returns satisfies `Q`. -/
inductive Keeps (P : Store → Prop) (Q : α → Prop) : Call α → Prop where
  | done {result : Except Fault α} (h : ∀ a, result = .ok a → Q a) : Keeps P Q (.done result)
  | access {kind : AccessKind} {change : Store → Store} {next : Store → Call α}
      (hchange : ∀ s, P s → P (change s)) (hnext : ∀ s, P s → Keeps P Q (next s)) : Keeps P Q (.access kind change next)
  | fetch {queries : StatementPair} {next : FetchCourse → Call α} (hnext : ∀ c, Keeps P Q (next c)) :
      Keeps P Q (.fetch queries next)

namespace Keeps

theorem pure {a : α} (h : Q a) : Keeps P Q (Pure.pure a : Call α) := .done fun _ heq => Except.ok.inj heq ▸ h

theorem fail (cause : Fault) : Keeps P Q (Call.fail cause) := .done nofun

theorem bind {x : Call α} {k : α → Call β} (hx : x.Keeps P Q) (hk : ∀ a, Q a → (k a).Keeps P R) :
    (x >>= k).Keeps P R := by
  induction hx with
  | @done result h =>
    cases result with
    | ok a => exact hk a (h a rfl)
    | error cause => exact .fail cause
  | access hchange _ ih => exact .access hchange ih
  | fetch _ ih => exact .fetch ih

theorem mono {x : Call α} {Q' : α → Prop} (hx : x.Keeps P Q) (h : ∀ a, Q a → Q' a) : x.Keeps P Q' := by
  induction hx with
  | done hdone => exact .done fun a ha => h a (hdone a ha)
  | access hchange _ ih => exact .access hchange ih
  | fetch _ ih => exact .fetch ih

theorem map {x : Call α} {f : α → β} (hx : x.Keeps P Q) (h : ∀ a, Q a → R (f a)) : (f <$> x).Keeps P R :=
  hx.bind fun a ha => .pure (h a ha)

theorem check {result : Except Fault α} : (Call.check result).Keeps P fun a => result = .ok a := .done fun _ => id

theorem requireText (s : String) (cause : ConfigFault) : (Call.requireText s cause).Keeps P fun _ => True := by
  unfold Call.requireText
  split
  · exact .fail _
  · exact .pure trivial

theorem changed (missing : Missing) (b : Bool) : (Call.changed missing b).Keeps P fun _ => True := by
  unfold Call.changed
  split
  · exact .pure trivial
  · exact .fail _

theorem found (missing : Missing) {a? : Option α} (h : ∀ a, a? = some a → Q a) : (Call.found missing a?).Keeps P Q := by
  cases a? with
  | none => exact .fail _
  | some a => exact .pure (h a rfl)

theorem ofStore {r : Except StoreFault α} (h : ∀ a, r = .ok a → Q a) : (Call.ofStore r).Keeps P Q := by
  cases r with
  | ok a => exact .pure (h a rfl)
  | error cause => exact .fail _

theorem read {table : StoreTable} {get : Store → Except StoreFault α} (h : ∀ s, P s → ∀ a, get s = .ok a → Q a) :
    (Call.read table get).Keeps P Q := .access (fun _ => id) fun s hs => .ofStore (h s hs)

theorem insert {put : Store → Except StoreFault Store} (h : ∀ s, P s → ∀ s', put s = .ok s' → P s') :
    (Call.insert put).Keeps P fun _ => True := by
  refine .access (fun s hs => ?_) fun s _ => .ofStore fun _ _ => trivial
  cases hput : put s with
  | ok s' => exact h s hs s' hput
  | error cause => exact hs

theorem change {f : Store → Store × α} (h : ∀ s, P s → P (f s).1) : (Call.change f).Keeps P fun _ => True :=
  .access h fun _ _ => .done fun _ _ => trivial

variable {x : Call α} {s : Store}

theorem run (hx : x.Keeps P Q) (source : StatementPair → FetchCourse) (hs : P s) : P (x.run source s).1 := by
  induction hx generalizing s with
  | done _ => exact hs
  | access hchange _ ih => exact ih s hs (hchange s hs)
  | fetch _ ih => exact ih _ hs

theorem write (hx : x.Keeps P Q) (hs : P s) : (x.write s).2.Keeps P Q ∧ P (x.write s).1 := by
  cases hx with
  | done h => exact ⟨.done h, hs⟩
  | fetch hnext => exact ⟨.fetch hnext, hs⟩
  | @access kind change next hchange hnext =>
    cases kind with
    | read table => exact ⟨.access hchange hnext, hs⟩
    | write => exact ⟨hnext s hs, hchange s hs⟩

theorem turn (hx : x.Keeps P Q) (g : Stride) (hs : P s) : (x.turn g s).2.Keeps P Q ∧ P (x.turn g s).1 := by
  cases hx with
  | done h => exact ⟨.done h, hs⟩
  | fetch hnext => exact ⟨.fetch hnext, hs⟩
  | @access kind change next hchange hnext =>
    have hone : (next s).Keeps P Q ∧ P (change s) := ⟨hnext s hs, hchange s hs⟩
    cases g with
    | access => exact hone
    | statusChange =>
      cases kind with
      | write => exact hone
      | read table =>
        cases table with
        | executions => exact hone.1.write hone.2
        | _ => exact hone

theorem answer {o : Ongoing} {Q : Answer → Prop} (ho : o.call.Keeps P Q) (course : FetchCourse) :
    (o.answer course).call.Keeps P Q := by
  unfold Ongoing.answer
  split
  · rename_i hcall
    rw [hcall] at ho
    cases ho with
    | fetch hnext => exact hnext course
  · exact ho

end Keeps

end Call

def Store.after (s : Store) (source : StatementPair → FetchCourse) (calls : List (Request × CallSetting)) : Store :=
  calls.foldl (fun s c => ((c.1.call c.2).run source s).1) s

theorem Store.keeps_after {P : Store → Prop} {calls : List (Request × CallSetting)}
    (h : ∀ c ∈ calls, (c.1.call c.2).Keeps P fun _ => True) (source : StatementPair → FetchCourse) {s : Store}
    (hs : P s) : P (s.after source calls) := by
  induction calls generalizing s with
  | nil => exact hs
  | cons c calls ih =>
    rw [List.forall_mem_cons] at h
    exact ih h.2 (h.1.run source hs)

namespace Service

theorem keeps_run {P : Store → Prop} (g : Stride) {s : Store} (hs : P s) {events : List ServiceEvent}
    (h : ∀ request setting, .begin request setting ∈ events → (request.call setting).Keeps P fun _ => True) :
    P ((start s).run g events).store ∧
      ∀ (j : Nat) (o : Ongoing), ((start s).run g events).calls[j]? = some o → o.call.Keeps P fun _ => True := by
  induction events using List.reverseRecOn with
  | nil => exact ⟨hs, by simp [start, run]⟩
  | append_singleton events e ih =>
    obtain ⟨hstore, hcalls⟩ := ih fun request setting hmem => h request setting (List.mem_append_left _ hmem)
    rw [run_concat]
    constructor
    · rcases store_step g ((start s).run g events) e with hsame | ⟨i, o, -, ho, hturn⟩
      · rwa [hsame]
      · rw [hturn]
        exact ((hcalls i o ho).turn g hstore).2
    · intro j o' ho'
      rcases getElem?_step ho' with ⟨-, request, setting, rfl, rfl⟩ | ⟨o, ho, ⟨rfl, -⟩ | ⟨-, rfl⟩ | ⟨course, -, rfl⟩⟩
      · exact h request setting (List.mem_append_right _ List.mem_cons_self)
      · exact hcalls j _ ho
      · exact ((hcalls j o ho).turn g hstore).1
      · exact (hcalls j o ho).answer course

end Service

end PortfolioReports
