import PortfolioReports.Proofs.Reporting.Effects

/-!
The reading and the writing of a change of status are two accesses, so a change that was checked before an execution
became final is still written after that.
-/

namespace PortfolioReports

open Calendar Call RunStage

def ExecutionRow.IsFinal (row : ExecutionRow) : Prop := row.status = "completed" ∨ row.status = "failed"

instance (row : ExecutionRow) : Decidable row.IsFinal := inferInstanceAs (Decidable (_ ∨ _))

def ExecutionRow.IsCancelled (row : ExecutionRow) : Prop :=
  row.status = "failed" ∧ row.error? = some Reporting.cancelledByUser

theorem ExecutionRow.IsCancelled.isFinal {row : ExecutionRow} (h : row.IsCancelled) : row.IsFinal := .inr h.1

namespace Service

/-- Once an execution is final nothing changes it, and once a user was told that it is cancelled it is and stays
cancelled. -/
def FinalStays (s : Store) (events : List ServiceEvent) (u : Uuid) : Prop :=
  ∀ before middle after, events = before ++ middle ++ after →
    (∀ row, ((start s).run .access before).store.executionsOf u = [row] → row.IsFinal →
      ((start s).run .access (before ++ middle)).store.executionsOf u = [row]) ∧
    (((start s).run .access before).Cancelled u →
      ∃ row, ((start s).run .access (before ++ middle)).store.executionsOf u = [row] ∧ row.IsCancelled)

/-- No turn writes an execution that is final, unless it writes what is there. -/
def NoLateWrite (s : Store) (events : List ServiceEvent) (u : Uuid) : Prop :=
  ∀ before i after, events = before ++ .turn i :: after → ∀ o e row,
    ((start s).run .access before).calls[i]? = some o → o.call.Writes e → e.id = u →
    ((start s).run .access before).store.executionsOf u = [row] → row.IsFinal →
    (ExecutionRow.ofExecution e).updateFrom row = row

theorem executionsOf_turn_access {x : Call Answer} {made? target? : Option Uuid} (hx : x.Touches made? target?)
    (s : Store) (u : Uuid) :
    (x.turn .access s).1.executionsOf u = s.executionsOf u ∨
      (s.executionsOf u = [] ∧ ∃ row, (x.turn .access s).1.executionsOf u = [row]) ∨
      ∃ e, x.Writes e ∧ e.id = u ∧
        (x.turn .access s).1.executionsOf u = (s.executionsOf u).map (ExecutionRow.ofExecution e).updateFrom := by
  cases hx with
  | done result => exact .inl rfl
  | fetch hnext => exact .inl rfl
  | @access kind change next hexecutions hreports hnext =>
    have hturn : (Call.access kind change next).turn .access s = (change s, next s) := rfl
    rw [hturn]
    cases hexecutions with
    | keep h => exact .inl (Store.executionsOf_of_eq (h s) u)
    | insert e hmade hid h =>
      rw [h s]
      rcases s.insertExecution_cases e with ⟨f, hf⟩ | ⟨hnew, hput⟩
      · left
        rw [hf]
        rfl
      · rw [hput]
        have hrows := s.executionsOf_append e u
        by_cases hu : e.id = u
        · subst hu
          rw [hnew, if_pos rfl, List.nil_append] at hrows
          exact .inr (.inl ⟨hnew, _, hrows⟩)
        · rw [if_neg hu, List.append_nil] at hrows
          exact .inl hrows
    | update e hid h =>
      have hchange : change = fun s => (s.updateExecution e).1 := funext h
      subst hchange
      have hrows := s.executionsOf_updateExecution e u
      by_cases hu : e.id = u
      · rw [if_pos hu] at hrows
        exact .inr (.inr ⟨e, .intro kind next, hu, hrows⟩)
      · rw [if_neg hu] at hrows
        exact .inl hrows

theorem turn_of_writes {x : Call Answer} {e : Execution} (h : x.Writes e) (s : Store) :
    (x.turn .access s).1 = (s.updateExecution e).1 := by
  cases h
  rfl

theorem executionsOf_step {σ : Service} (htouches : σ.TouchesOwn) (e : ServiceEvent) (u : Uuid) :
    (σ.step .access e).store.executionsOf u = σ.store.executionsOf u ∨
      (σ.store.executionsOf u = [] ∧ ∃ row, (σ.step .access e).store.executionsOf u = [row]) ∨
      ∃ i o x, e = .turn i ∧ σ.calls[i]? = some o ∧ o.call.Writes x ∧ x.id = u ∧
        (σ.step .access e).store.executionsOf u =
          (σ.store.executionsOf u).map (ExecutionRow.ofExecution x).updateFrom := by
  rcases store_step .access σ e with hsame | ⟨i, o, he, ho, hstore⟩
  · exact .inl (by rw [hsame])
  · rw [hstore]
    rcases executionsOf_turn_access (htouches i o ho) σ.store u with hrows | hrows | ⟨x, hx, hid, hrows⟩
    · exact .inl hrows
    · exact .inr (.inl hrows)
    · exact .inr (.inr ⟨i, o, x, he, ho, hx, hid, hrows⟩)

theorem length_executionsOf_run (s : Store) {u : Uuid} (hkey : (s.executionsOf u).length ≤ 1)
    (events : List ServiceEvent) : (((start s).run .access events).store.executionsOf u).length ≤ 1 := by
  induction events using List.reverseRecOn with
  | nil => exact hkey
  | append_singleton events e ih =>
    rw [run_concat]
    rcases executionsOf_step (touchesOwn_run .access s events) e u with
      hrows | ⟨-, row, hrows⟩ | ⟨i, o, x, -, -, -, -, hrows⟩
    · rwa [hrows]
    · simp [hrows]
    · rwa [hrows, List.length_map]

inductive CancelStage (s : Store) (u : Uuid) (now : Moment) : Call Answer → Prop where
  | reading : CancelStage s u now (cancelling u now)
  | writing (e : Execution) (hid : e.id = u) (hthere : s.executionsOf u ≠ [])
      (hmark : (ExecutionRow.ofExecution e).IsCancelled) :
      CancelStage s u now (.access .write (fun s => (s.updateExecution e).1) fun _ => .done (.ok (.execution e)))
  | told (result : Except Fault Answer) : CancelStage s u now (.done result)

namespace CancelStage

variable {s s' : Store} {u : Uuid} {now : Moment} {call : Call Answer}

theorem of_kept (h : CancelStage s u now call) (hkept : s.executionsOf u ≠ [] → s'.executionsOf u ≠ []) :
    CancelStage s' u now call := by
  cases h with
  | reading => exact .reading
  | writing e hid hthere hmark => exact .writing e hid (hkept hthere) hmark
  | told result => exact .told result

theorem ne_fetch (h : CancelStage s u now call) (queries : StatementPair) (next : FetchCourse → Call Answer) :
    call ≠ .fetch queries next := by
  cases h with
  | reading => exact nofun
  | writing e hid hthere hmark => exact nofun
  | told result => exact nofun

theorem turn (h : CancelStage s u now call) :
    CancelStage (call.turn .access s).1 u now (call.turn .access s).2 ∧
      ∀ a, (call.turn .access s).2 = .done (.ok a) → call = .done (.ok a) ∨
        ((call.turn .access s).1.executionsOf u ≠ [] ∧
          ∀ row ∈ (call.turn .access s).1.executionsOf u, row.IsCancelled) := by
  cases h with
  | reading =>
    cases hs : s.statusChange u .failed (fun e => e.stopped Reporting.cancelledByUser now) with
    | error f =>
      have hturn : (cancelling u now).turn .access s = (s, .done (.error f)) := by
        simp only [cancelling, changing, Call.turn, hs]
      rw [hturn]
      exact ⟨.told _, fun a ha => by cases ha⟩
    | ok x =>
      have hturn : (cancelling u now).turn .access s =
          (s, .access .write (fun s => (s.updateExecution x).1) fun _ => .done (.ok (.execution x))) := by
        simp only [cancelling, changing, Call.turn, hs]
      have hthere : s.executionsOf u ≠ [] := by
        intro hnone
        rw [Store.statusChange_of_nil hnone] at hs
        cases hs
      obtain ⟨e, -, hid, -, rfl⟩ := Store.of_statusChange hs
      rw [hturn]
      exact ⟨.writing _ hid hthere ⟨rfl, rfl⟩, fun a ha => by cases ha⟩
  | writing e hid hthere hmark =>
    have hrows := s.executionsOf_updateExecution e u
    rw [if_pos hid] at hrows
    refine ⟨.told _, fun a _ => .inr ⟨?_, fun row hrow => ?_⟩⟩
    · show (s.updateExecution e).1.executionsOf u ≠ []
      rw [hrows]
      simpa using hthere
    · change row ∈ (s.updateExecution e).1.executionsOf u at hrow
      rw [hrows] at hrow
      obtain ⟨row', -, rfl⟩ := List.mem_map.mp hrow
      exact hmark
  | told result => exact ⟨.told result, fun a ha => .inl ha⟩

end CancelStage

def CancelsInStages (σ : Service) : Prop :=
  ∀ (j : Nat) (o : Ongoing) (u : Uuid), σ.calls[j]? = some o → o.request = .cancelExecution u →
    CancelStage σ.store u o.setting.now o.call

theorem CancelsInStages.alone {σ : Service} (h : σ.CancelsInStages) : σ.CancelsAlone := by
  intro j o u ho hrequest
  exact (h j o u ho hrequest).ne_fetch

theorem cancelsInStages_run (s : Store) (events : List ServiceEvent) :
    ((start s).run .access events).CancelsInStages := by
  induction events using List.reverseRecOn with
  | nil => intro j o u ho; simp [start, run] at ho
  | append_singleton events e ih =>
    rw [run_concat]
    intro j o' u ho' hrequest
    have hkept := kept_step (g := .access) (touchesOwn_run .access s events) e (u := u)
    rcases getElem?_step ho' with ⟨-, request, setting, -, rfl⟩ | ⟨o, ho, ⟨rfl, -⟩ | ⟨rfl, rfl⟩ | ⟨course, -, rfl⟩⟩
    · obtain rfl : request = .cancelExecution u := hrequest
      have hcall : (Ongoing.begin (.cancelExecution u) setting).call = cancelling u setting.now :=
        call_cancelExecution u setting
      rw [hcall]
      exact .reading
    · exact (ih j _ u ho hrequest).of_kept hkept
    · have hstore : (((start s).run .access events).step .access (.turn j)).store =
          (o.call.turn .access ((start s).run .access events).store).1 := by
        simp only [step, ho]
      rw [hstore]
      exact (ih j o u ho hrequest).turn.1
    · obtain ⟨hsame, -, -⟩ := request_answer course o
      rw [hsame] at hrequest
      have hstage := ih j o u ho hrequest
      rw [answer_of_not_fetch hstage.ne_fetch]
      exact hstage.of_kept hkept

theorem NoLateWrite.of_append {s : Store} {events events' : List ServiceEvent} {u : Uuid}
    (h : NoLateWrite s (events ++ events') u) : NoLateWrite s events u := by
  intro before i after hevents
  exact h before i (after ++ events') (by rw [hevents]; simp)

theorem NoLateWrite.final_step {s : Store} {events : List ServiceEvent} {e : ServiceEvent} {u : Uuid}
    (h : NoLateWrite s (events ++ [e]) u) {row : ExecutionRow}
    (hrow : ((start s).run .access events).store.executionsOf u = [row]) (hfinal : row.IsFinal) :
    ((start s).run .access (events ++ [e])).store.executionsOf u = [row] := by
  rw [run_concat]
  rcases executionsOf_step (touchesOwn_run .access s events) e u with
    hrows | ⟨hnone, -⟩ | ⟨i, o, x, rfl, ho, hx, hid, hrows⟩
  · rwa [hrows]
  · rw [hrow] at hnone
    cases hnone
  · rw [hrows, hrow, List.map_singleton, h events i [] rfl o x row ho hx hid hrow hfinal]

theorem NoLateWrite.final_run {s : Store} {before middle : List ServiceEvent} {u : Uuid}
    (h : NoLateWrite s (before ++ middle) u) {row : ExecutionRow}
    (hrow : ((start s).run .access before).store.executionsOf u = [row]) (hfinal : row.IsFinal) :
    ((start s).run .access (before ++ middle)).store.executionsOf u = [row] := by
  induction middle using List.reverseRecOn with
  | nil => rwa [List.append_nil]
  | append_singleton middle e ih =>
    rw [← List.append_assoc] at h ⊢
    exact h.final_step (ih h.of_append) hfinal

theorem NoLateWrite.cancelled_run {s : Store} {events : List ServiceEvent} {u : Uuid}
    (hkey : (s.executionsOf u).length ≤ 1) (h : NoLateWrite s events u)
    (hcancelled : ((start s).run .access events).Cancelled u) :
    ∃ row, ((start s).run .access events).store.executionsOf u = [row] ∧ row.IsCancelled := by
  induction events using List.reverseRecOn with
  | nil =>
    obtain ⟨j, o, ho, -⟩ := hcancelled
    simp [start, run] at ho
  | append_singleton events e ih =>
    have hstages := cancelsInStages_run s events
    have hlength := length_executionsOf_run s hkey (events ++ [e])
    have hbefore : ((start s).run .access events).Cancelled u →
        ∃ row, ((start s).run .access (events ++ [e])).store.executionsOf u = [row] ∧ row.IsCancelled := by
      intro hcancelled
      obtain ⟨row, hrow, hmark⟩ := ih h.of_append hcancelled
      exact ⟨row, h.final_step hrow hmark.isFinal, hmark⟩
    rw [run_concat] at hcancelled hlength hbefore ⊢
    rcases (cancelled_step .access hstages.alone e u).mp hcancelled with hold | ⟨i, o, a, rfl, ho, hrequest, hdone⟩
    · exact hbefore hold
    · have hstore : (((start s).run .access events).step .access (.turn i)).store =
          (o.call.turn .access ((start s).run .access events).store).1 := by
        simp only [step, ho]
      rcases (hstages i o u ho hrequest).turn.2 a hdone with htold | ⟨hthere, hmarks⟩
      · exact hbefore ⟨i, o, ho, hrequest, a, htold⟩
      · rw [hstore] at hlength ⊢
        cases hrows : (o.call.turn .access ((start s).run .access events).store).1.executionsOf u with
        | nil => exact absurd hrows hthere
        | cons row rest =>
          rw [hrows] at hlength hmarks
          obtain rfl : rest = [] := List.length_eq_zero_iff.mp (by simpa using hlength)
          exact ⟨row, rfl, hmarks row (by simp)⟩

theorem cancelled_append {s : Store} {before : List ServiceEvent} {u : Uuid}
    (h : ((start s).run .access before).Cancelled u) (middle : List ServiceEvent) :
    ((start s).run .access (before ++ middle)).Cancelled u := by
  induction middle using List.reverseRecOn with
  | nil => rwa [List.append_nil]
  | append_singleton middle e ih =>
    rw [← List.append_assoc, run_concat]
    obtain ⟨j, o, ho, hrequest, a, hdone⟩ := ih
    obtain ⟨o', ho', hsame, hdone'⟩ := done_step (g := .access) e ho hdone
    exact ⟨j, o', ho', hsame.trans hrequest, a, hdone'⟩

theorem finalStays_iff_noLateWrite (s : Store) (events : List ServiceEvent) (u : Uuid)
    (hkey : (s.executionsOf u).length ≤ 1) : FinalStays s events u ↔ NoLateWrite s events u := by
  constructor
  · intro h before i after hevents o e row ho hwrites hid hrow hfinal
    have hsplit : events = before ++ [.turn i] ++ after := by simp [hevents]
    have hstays := (h before [.turn i] after hsplit).1 row hrow hfinal
    have hstore : ((start s).run .access (before ++ [.turn i])).store =
        (((start s).run .access before).store.updateExecution e).1 := by
      rw [run_concat]
      simp only [step, ho, turn_of_writes hwrites]
    rw [hstore, Store.executionsOf_updateExecution, if_pos hid, hrow, List.map_singleton] at hstays
    exact (List.cons.inj hstays).1
  · rintro h before middle after rfl
    refine ⟨fun row hrow hfinal => h.of_append.final_run hrow hfinal, fun hcancelled => ?_⟩
    exact h.of_append.cancelled_run hkey (cancelled_append hcancelled middle)

def lateRun : List ServiceEvent :=
  [.begin (.executeQuery projectNames "Projects" .json none) atNoon, .begin (.cancelExecution .nil) atNoon,
    .turn 0, .turn 0, .turn 0, .answer 0 (.answered ⟨[], 3⟩), .turn 0, .turn 0, .turn 1, .turn 1, .turn 0]

theorem finalStays_iff_noLateWrite_lateRun : (Store.empty.executionsOf .nil).length ≤ 1 ∧
    (FinalStays .empty lateRun .nil ↔ NoLateWrite .empty lateRun .nil) :=
  ⟨by decide, finalStays_iff_noLateWrite .empty lateRun .nil (by decide)⟩

theorem lateRun_reopens : ¬ FinalStays .empty lateRun .nil := by
  intro h
  have hcancelled : (((start .empty).run .access lateRun.dropLast).store.executionsOf .nil).map
      (fun row => (row.status, row.error?)) = [("failed", some "Cancelled by user")] := by decide +kernel
  have hcompleted : (((start .empty).run .access (lateRun.dropLast ++ [.turn 0])).store.executionsOf .nil).map
      (fun row => (row.status, row.error?)) = [("completed", none)] := by decide +kernel
  obtain ⟨row, hrow, hmark⟩ := List.map_eq_singleton_iff.mp hcancelled
  have hfinal : row.IsFinal := .inr (congrArg Prod.fst hmark)
  have hstays := (h lateRun.dropLast [.turn 0] [] rfl).1 row hrow hfinal
  rw [hstays, List.map_singleton, hmark] at hcompleted
  simp at hcompleted

end Service

end PortfolioReports
