import Mathlib.Data.List.Induction
import PortfolioReports.Reporting.Request

namespace PortfolioReports

inductive Stride where
  | access
  /-- One access, or a change of status as a whole: its reading and its writing. -/
  | statusChange

namespace Call

variable {α : Type}

def write : Call α → Store → Store × Call α
  | access .write change next, s => (change s, next s)
  | call, s => (s, call)

def turn (g : Stride) : Call α → Store → Store × Call α
  | access kind change next, s =>
    match g, kind with
    -- a writing that follows the reading of an execution is the change of its status
    | .statusChange, .read .executions => (next s).write (change s)
    | _, _ => (change s, next s)
  | call, s => (s, call)

end Call

structure Ongoing where
  request : Request
  setting : CallSetting
  found? : Option Store
  course? : Option FetchCourse
  call : Call Answer

namespace Ongoing

def begin (request : Request) (setting : CallSetting) : Ongoing :=
  ⟨request, setting, none, none, request.call setting⟩

def turn (g : Stride) (o : Ongoing) (s : Store) : Ongoing :=
  { o with found? := o.found?.or (some s), call := (o.call.turn g s).2 }

def answer (course : FetchCourse) (o : Ongoing) : Ongoing :=
  match o.call with
  | .fetch _ next => { o with course? := some course, call := next course }
  | _ => o

end Ongoing

structure Service where
  store : Store
  calls : List Ongoing

inductive ServiceEvent where
  | begin (request : Request) (setting : CallSetting)
  | turn (i : Nat)
  | answer (i : Nat) (course : FetchCourse)

namespace Service

def start (s : Store) : Service := ⟨s, []⟩

def step (g : Stride) (σ : Service) : ServiceEvent → Service
  | .begin request setting => { σ with calls := σ.calls ++ [.begin request setting] }
  | .turn i =>
    match σ.calls[i]? with
    | some o => ⟨(o.call.turn g σ.store).1, σ.calls.set i (o.turn g σ.store)⟩
    | none => σ
  | .answer i course =>
    match σ.calls[i]? with
    | some o => { σ with calls := σ.calls.set i (o.answer course) }
    | none => σ

def run (g : Stride) (σ : Service) (events : List ServiceEvent) : Service := events.foldl (step g) σ

end Service

def Request.runId? (c : CallSetting) : Request → Option Uuid
  | .executeReport .. | .executeQuery .. => some c.fresh
  | _ => none

def ServiceEvent.runId? : ServiceEvent → Option Uuid
  | .begin request setting => request.runId? setting
  | _ => none

def Ongoing.runId? (o : Ongoing) : Option Uuid := o.request.runId? o.setting

namespace Service

variable {g : Stride} {σ : Service} {i j : Nat} {o : Ongoing}

theorem run_append (g : Stride) (σ : Service) (events events' : List ServiceEvent) :
    σ.run g (events ++ events') = (σ.run g events).run g events' := List.foldl_append

theorem run_concat (g : Stride) (σ : Service) (events : List ServiceEvent) (e : ServiceEvent) :
    σ.run g (events ++ [e]) = (σ.run g events).step g e := σ.run_append g events [e]

theorem getElem?_step {e : ServiceEvent} {o' : Ongoing} (h : (σ.step g e).calls[j]? = some o') :
    (j = σ.calls.length ∧ ∃ request setting, e = .begin request setting ∧ o' = .begin request setting) ∨
      ∃ o, σ.calls[j]? = some o ∧ (o' = o ∧ e ≠ .turn j ∨ e = .turn j ∧ o' = o.turn g σ.store ∨
        ∃ course, e = .answer j course ∧ o' = o.answer course) := by
  cases e with
  | begin request setting =>
    simp only [step] at h
    by_cases hj : j < σ.calls.length
    · rw [List.getElem?_append_left hj] at h
      exact .inr ⟨o', h, .inl ⟨rfl, by simp⟩⟩
    · rw [List.getElem?_append_right (Nat.le_of_not_lt hj), List.getElem?_singleton] at h
      split at h
      · exact .inl ⟨by omega, request, setting, rfl, (Option.some.inj h).symm⟩
      · cases h
  | turn i =>
    simp only [step] at h
    split at h
    · rename_i o ho
      rw [List.getElem?_set] at h
      split at h
      · rename_i hij
        subst hij
        split at h
        · exact .inr ⟨o, ho, .inr (.inl ⟨rfl, (Option.some.inj h).symm⟩)⟩
        · cases h
      · rename_i hij
        exact .inr ⟨o', h, .inl ⟨rfl, by simpa using hij⟩⟩
    · rename_i hnone
      refine .inr ⟨o', h, .inl ⟨rfl, ?_⟩⟩
      rintro ⟨rfl⟩
      rw [hnone] at h
      cases h
  | answer i course =>
    simp only [step] at h
    split at h
    · rename_i o ho
      rw [List.getElem?_set] at h
      split at h
      · rename_i hij
        subst hij
        split at h
        · exact .inr ⟨o, ho, .inr (.inr ⟨course, rfl, (Option.some.inj h).symm⟩)⟩
        · cases h
      · exact .inr ⟨o', h, .inl ⟨rfl, by simp⟩⟩
    · exact .inr ⟨o', h, .inl ⟨rfl, by simp⟩⟩

theorem exists_getElem?_step (g : Stride) (e : ServiceEvent) (h : σ.calls[j]? = some o) :
    ∃ o', (σ.step g e).calls[j]? = some o' := by
  have hlt := (List.getElem?_eq_some_iff.mp h).1
  have hle : σ.calls.length ≤ (σ.step g e).calls.length := by
    cases e with
    | begin request setting => simp [step]
    | turn i =>
      simp only [step]
      split <;> simp
    | answer i course =>
      simp only [step]
      split <;> simp
  exact ⟨_, List.getElem?_eq_getElem (Nat.lt_of_lt_of_le hlt hle)⟩

theorem store_step (g : Stride) (σ : Service) (e : ServiceEvent) :
    (σ.step g e).store = σ.store ∨
      ∃ i o, e = .turn i ∧ σ.calls[i]? = some o ∧ (σ.step g e).store = (o.call.turn g σ.store).1 := by
  cases e with
  | begin request setting => exact .inl rfl
  | turn i =>
    cases ho : σ.calls[i]? with
    | none => exact .inl (by simp only [step, ho])
    | some o => exact .inr ⟨i, o, rfl, ho, by simp only [step, ho]⟩
  | answer i course =>
    refine .inl ?_
    simp only [step]
    split <;> rfl

theorem store_turn (g : Stride) (ho : σ.calls[i]? = some o) :
    (σ.step g (.turn i)).store = (o.call.turn g σ.store).1 := by
  simp only [step, ho]

theorem request_answer (course : FetchCourse) (o : Ongoing) :
    (o.answer course).request = o.request ∧ (o.answer course).setting = o.setting ∧
      (o.answer course).found? = o.found? := by
  unfold Ongoing.answer
  split <;> exact ⟨rfl, rfl, rfl⟩

theorem runId?_answer (course : FetchCourse) (o : Ongoing) : (o.answer course).runId? = o.runId? := by
  obtain ⟨hrequest, hsetting, -⟩ := request_answer course o
  rw [Ongoing.runId?, hrequest, hsetting, Ongoing.runId?]

theorem begin_mem (g : Stride) (s : Store) (events : List ServiceEvent) :
    ∀ (j : Nat) (o : Ongoing), ((start s).run g events).calls[j]? = some o →
      .begin o.request o.setting ∈ events := by
  induction events using List.reverseRecOn with
  | nil => simp [start, run]
  | append_singleton events e ih =>
    intro j o' ho'
    rw [run_concat] at ho'
    rw [List.mem_append]
    rcases getElem?_step ho' with ⟨-, request, setting, rfl, rfl⟩ | ⟨o, ho, ⟨rfl, -⟩ | ⟨-, rfl⟩ | ⟨course, -, rfl⟩⟩
    · exact .inr (List.mem_singleton.mpr rfl)
    · exact .inl (ih j _ ho)
    · exact .inl (ih j o ho)
    · obtain ⟨hrequest, hsetting, -⟩ := request_answer course o
      rw [hrequest, hsetting]
      exact .inl (ih j o ho)

theorem filterMap_set {α : Type} {f : Ongoing → Option α} {calls : List Ongoing} {i : Nat} {o o' : Ongoing}
    (ho : calls[i]? = some o) (hsame : f o' = f o) : (calls.set i o').filterMap f = calls.filterMap f := by
  induction calls generalizing i with
  | nil => rfl
  | cons c calls ih =>
    cases i with
    | zero =>
      obtain rfl : c = o := by simpa using ho
      simp only [List.set_cons_zero, List.filterMap_cons, hsame]
    | succ i => simp only [List.set_cons_succ, List.filterMap_cons, ih (by simpa using ho)]

theorem filterMap_runId?_step (g : Stride) (σ : Service) (e : ServiceEvent) :
    (σ.step g e).calls.filterMap Ongoing.runId? =
      σ.calls.filterMap Ongoing.runId? ++ [e].filterMap ServiceEvent.runId? := by
  cases e with
  | begin request setting =>
    simp only [step, List.filterMap_append]
    rfl
  | turn i =>
    simp only [step, List.filterMap_cons, ServiceEvent.runId?, List.filterMap_nil, List.append_nil]
    split
    · rename_i o ho
      exact filterMap_set ho rfl
    · rfl
  | answer i course =>
    simp only [step, List.filterMap_cons, ServiceEvent.runId?, List.filterMap_nil, List.append_nil]
    split
    · rename_i o ho
      exact filterMap_set ho (runId?_answer course o)
    · rfl

theorem filterMap_runId?_run (g : Stride) (s : Store) (events : List ServiceEvent) :
    ((start s).run g events).calls.filterMap Ongoing.runId? = events.filterMap ServiceEvent.runId? := by
  induction events using List.reverseRecOn with
  | nil => rfl
  | append_singleton events e ih => rw [run_concat, filterMap_runId?_step, ih, ← List.filterMap_append]

theorem index_eq_of_runId? {calls : List Ongoing} (hids : (calls.filterMap Ongoing.runId?).Nodup) {i j : Nat}
    {o o' : Ongoing} (hi : calls[i]? = some o) (hj : calls[j]? = some o') {u : Uuid} (ho : o.runId? = some u)
    (ho' : o'.runId? = some u) : i = j := by
  have hpairs := List.pairwise_filterMap.mp hids
  rw [List.pairwise_iff_getElem] at hpairs
  obtain ⟨hi', rfl⟩ := List.getElem?_eq_some_iff.mp hi
  obtain ⟨hj', rfl⟩ := List.getElem?_eq_some_iff.mp hj
  rcases Nat.lt_trichotomy i j with hlt | heq | hgt
  · exact absurd rfl (hpairs i j hi' hj' hlt u ho u ho')
  · exact heq
  · exact absurd rfl (hpairs j i hj' hi' hgt u ho' u ho)

end Service

def projectNames : ReportQuery := ⟨"projects", [⟨"name", none, none, 0, none, false, none⟩], [], [], [], [], 0⟩

def atNoon : CallSetting := ⟨.nil, ⟨⟨20000⟩, ⟨43200, 0⟩⟩, .empty, .outlines⟩

end PortfolioReports
