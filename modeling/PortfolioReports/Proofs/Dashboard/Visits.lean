import Mathlib.Data.List.Induction
import Mathlib.Data.List.Perm.Basic
import Mathlib.Logic.Function.Basic
import PortfolioReports.Proofs.Dashboard.Notes

/-!
A visit looks into the memory, then each of its queries is answered, and at last it notes the summary. Between two of
these steps all others may have theirs, the source may change, and the memory may be invalidated.
-/

namespace PortfolioReports

open Calendar Memory Dashboard

structure Given where
  tick : Nat
  query : SummaryQuery
  outcome : Outcome SummaryPart

def DashboardSummary.assembled (since : Moment) (given : List Given) : DashboardSummary :=
  ofOutcomes since (given.map Given.outcome)

/-- Answers are joined in any order, whenever they were given. -/
def joinedAt (place : Nat) (g : Given) (given : List Given) : List Given := given.take place ++ g :: given.drop place

theorem joinedAt_perm (place : Nat) (g : Given) (given : List Given) :
    (joinedAt place g given).Perm (g :: given) := by
  have hperm := @List.perm_middle _ g (given.take place) (given.drop place)
  rwa [List.take_append_drop] at hperm

theorem joinedAt_of_length_le {place : Nat} {given : List Given} (h : given.length ≤ place) (g : Given) :
    joinedAt place g given = given ++ [g] := by
  rw [joinedAt, List.take_of_length_le h, List.drop_of_length_le h]

inductive VisitStage where
  /-- The queries were put at some time and wait for the source or are answered. -/
  | asking (since : Moment) (pending : List SummaryQuery) (given : List Given)
  | told (s : DashboardSummary) (given : List Given)

def VisitStage.given : VisitStage → List Given
  | asking _ _ given => given
  | told _ given => given

structure Visit where
  user? : Option Uuid
  begun : Nat
  stage : VisitStage

inductive SharedOp where
  | look (user? : Option Uuid)
  | answer (i k place : Nat)
  | note (i : Nat) (tie : TieBreak Remembered)
  | change (source : DashboardSource)
  | invalidate (user : Uuid)
  | clear
  | pass (sweeps : Sweeps) (start : Nat)

def SharedOp.Invalidates (user? : Option Uuid) : SharedOp → Prop
  | invalidate user => user? = some user
  | clear => True
  | look _ | answer .. | note .. | change _ | pass .. => False

structure SharedEvent where
  now : RequestTime
  op : SharedOp

structure SharedDashboard where
  dashboard : Dashboard
  source : DashboardSource
  visits : List Visit
  ticks : Nat
  notes : Option Uuid → List Given

namespace SharedDashboard

def start (config : DashboardConfig) (source : DashboardSource) : SharedDashboard :=
  ⟨.start config, source, [], 0, fun _ => []⟩

def look (σ : SharedDashboard) (now : RequestTime) (user? : Option Uuid) : VisitStage :=
  match σ.dashboard.recalledSummary? now.instant user? with
  | some s => .told s (σ.notes user?)
  | none => .asking now.moment (σ.dashboard.config.queries user?) []

def answer (σ : SharedDashboard) (i k place : Nat) : SharedDashboard :=
  match σ.visits[i]? with
  | some ⟨user?, begun, .asking since pending given⟩ =>
    match pending[k]? with
    | some query =>
      let given' := joinedAt place ⟨σ.ticks, query, query.ask σ.source⟩ given
      { σ with visits := σ.visits.set i ⟨user?, begun, .asking since (pending.eraseIdx k) given'⟩ }
    | none => σ
  | _ => σ

def note (σ : SharedDashboard) (now : RequestTime) (i : Nat) (tie : TieBreak Remembered) : SharedDashboard :=
  match σ.visits[i]? with
  | some ⟨user?, begun, .asking since [] given⟩ =>
    { σ with
      dashboard := σ.dashboard.rememberSummary tie now.instant user? (.assembled since given)
      visits := σ.visits.set i ⟨user?, begun, .told (.assembled since given) given⟩
      notes := Function.update σ.notes user? given }
  | _ => σ

def step (σ : SharedDashboard) (e : SharedEvent) : SharedDashboard :=
  let σ' : SharedDashboard := match e.op with
    | .look user? => { σ with visits := σ.visits ++ [⟨user?, σ.ticks, σ.look e.now user?⟩] }
    | .answer i k place => σ.answer i k place
    | .note i tie => σ.note e.now i tie
    | .change source => { σ with source }
    | .invalidate user => { σ with dashboard := σ.dashboard.invalidate user }
    | .clear => { σ with dashboard := σ.dashboard.forget }
    | .pass sweeps start => { σ with dashboard := σ.dashboard.sweepAll sweeps start e.now.instant }
  { σ' with ticks := σ.ticks + 1 }

def run (σ : SharedDashboard) (events : List SharedEvent) : SharedDashboard := events.foldl step σ

theorem run_concat (σ : SharedDashboard) (events : List SharedEvent) (e : SharedEvent) :
    σ.run (events ++ [e]) = (σ.run events).step e := List.foldl_append

variable {σ : SharedDashboard} {config : DashboardConfig} {source : DashboardSource} {events : List SharedEvent}

theorem look_cases (σ : SharedDashboard) (now : RequestTime) (user? : Option Uuid) :
    (∃ s, ∃ h ∈ σ.dashboard.memory.held, h.key = summaryKey user? ∧ h.value = .summary s ∧
        σ.look now user? = .told s (σ.notes user?)) ∨
      σ.look now user? = .asking now.moment (σ.dashboard.config.queries user?) [] := by
  cases hs : σ.dashboard.recalledSummary? now.instant user? with
  | none => exact .inr (by simp only [look, hs])
  | some s =>
    obtain ⟨h, hmem, hkey, hvalue, -⟩ := mem_of_get? (recalledSummary?_eq_some_iff.mp hs)
    exact .inl ⟨s, h, hmem, hkey, hvalue, by simp only [look, hs]⟩

theorem answer_cases (σ : SharedDashboard) (i k place : Nat) :
    σ.answer i k place = σ ∨
      ∃ user? begun since pending given query, σ.visits[i]? = some ⟨user?, begun, .asking since pending given⟩ ∧
        pending[k]? = some query ∧
        σ.answer i k place = { σ with visits := σ.visits.set i ⟨user?, begun,
          .asking since (pending.eraseIdx k) (joinedAt place ⟨σ.ticks, query, query.ask σ.source⟩ given)⟩ } := by
  unfold answer
  split
  · rename_i user? begun since pending given hvisit
    split
    · rename_i query hquery
      exact .inr ⟨user?, begun, since, pending, given, query, hvisit, hquery, rfl⟩
    · exact .inl rfl
  · exact .inl rfl

theorem note_cases (σ : SharedDashboard) (now : RequestTime) (i : Nat) (tie : TieBreak Remembered) :
    σ.note now i tie = σ ∨
      ∃ user? begun since given, σ.visits[i]? = some ⟨user?, begun, .asking since [] given⟩ ∧
        σ.note now i tie = { σ with
          dashboard := σ.dashboard.rememberSummary tie now.instant user? (.assembled since given)
          visits := σ.visits.set i ⟨user?, begun, .told (.assembled since given) given⟩
          notes := Function.update σ.notes user? given } := by
  unfold note
  split
  · rename_i user? begun since given hvisit
    exact .inr ⟨user?, begun, since, given, hvisit, rfl⟩
  · exact .inl rfl

inductive Visited (σ : SharedDashboard) (e : SharedEvent) : Visit → Prop where
  | old {v : Visit} (hmem : v ∈ σ.visits) : Visited σ e v
  | looked (user? : Option Uuid) (hop : e.op = .look user?) : Visited σ e ⟨user?, σ.ticks, σ.look e.now user?⟩
  | answered {user? : Option Uuid} {begun : Nat} {since : Moment} {pending : List SummaryQuery} {given : List Given}
      {query : SummaryQuery} (k place : Nat) (hmem : ⟨user?, begun, .asking since pending given⟩ ∈ σ.visits)
      (hquery : pending[k]? = some query) : Visited σ e ⟨user?, begun,
        .asking since (pending.eraseIdx k) (joinedAt place ⟨σ.ticks, query, query.ask σ.source⟩ given)⟩
  | noted {user? : Option Uuid} {begun : Nat} {since : Moment} {given : List Given} (i : Nat)
      (tie : TieBreak Remembered) (hop : e.op = .note i tie)
      (hvisit : σ.visits[i]? = some ⟨user?, begun, .asking since [] given⟩) :
      Visited σ e ⟨user?, begun, .told (.assembled since given) given⟩

theorem visited_of_mem {e : SharedEvent} {v : Visit} (hmem : v ∈ (σ.step e).visits) : Visited σ e v := by
  obtain ⟨now, op⟩ := e
  cases op with
  | look user? =>
    rcases List.mem_append.mp hmem with hold | hnew
    · exact .old hold
    · obtain rfl := List.mem_singleton.mp hnew
      exact .looked user? rfl
  | answer i k place =>
    change v ∈ (σ.answer i k place).visits at hmem
    rcases σ.answer_cases i k place with hsame | ⟨user?, begun, since, pending, given, query, hvisit, hquery, hset⟩
    · rw [hsame] at hmem
      exact .old hmem
    · rw [hset] at hmem
      rcases List.mem_or_eq_of_mem_set hmem with hold | rfl
      · exact .old hold
      · exact .answered k place (List.mem_of_getElem? hvisit) hquery
  | note i tie =>
    change v ∈ (σ.note now i tie).visits at hmem
    rcases σ.note_cases now i tie with hsame | ⟨user?, begun, since, given, hvisit, hset⟩
    · rw [hsame] at hmem
      exact .old hmem
    · rw [hset] at hmem
      rcases List.mem_or_eq_of_mem_set hmem with hold | rfl
      · exact .old hold
      · exact .noted i tie rfl hvisit
  | change source => exact .old hmem
  | invalidate user => exact .old hmem
  | clear => exact .old hmem
  | pass sweeps start => exact .old hmem

theorem worksBy_step (hσ : σ.dashboard.WorksBy config) (e : SharedEvent) :
    (σ.step e).dashboard.WorksBy config := by
  obtain ⟨now, op⟩ := e
  cases op with
  | look user? => exact hσ
  | answer i k place =>
    change (σ.answer i k place).dashboard.WorksBy config
    rcases σ.answer_cases i k place with hsame | ⟨user?, begun, since, pending, given, query, -, -, hset⟩
    · rwa [hsame]
    · rwa [hset]
  | note i tie =>
    change (σ.note now i tie).dashboard.WorksBy config
    rcases σ.note_cases now i tie with hsame | ⟨user?, begun, since, given, -, hset⟩
    · rwa [hsame]
    · rw [hset]
      exact hσ.rememberSummary ..
  | change source => exact hσ
  | invalidate user => exact hσ.invalidate user
  | clear => exact hσ.forget
  | pass sweeps start => exact hσ.sweepAll ..

theorem mem_step (hσ : σ.dashboard.WorksBy config) {e : SharedEvent} {h : Held Remembered}
    (hmem : h ∈ (σ.step e).dashboard.memory.held) {user? : Option Uuid} (hkey : h.key = summaryKey user?) :
    (h ∈ σ.dashboard.memory.held ∧ (σ.step e).notes user? = σ.notes user? ∧ ¬ e.op.Invalidates user?) ∨
    ∃ i tie begun since given, e.op = .note i tie ∧ σ.visits[i]? = some ⟨user?, begun, .asking since [] given⟩ ∧
      h = noteOfSummary config e.now.instant user? (.assembled since given) ∧ (σ.step e).notes user? = given := by
  obtain ⟨now, op⟩ := e
  cases op with
  | look asked? => exact .inl ⟨hmem, rfl, id⟩
  | answer i k place =>
    change h ∈ (σ.answer i k place).dashboard.memory.held at hmem
    show (_ ∧ (σ.answer i k place).notes user? = _ ∧ _) ∨ _
    rcases σ.answer_cases i k place with hsame | ⟨asked?, begun, since, pending, given, query, -, -, hset⟩
    · rw [hsame] at hmem ⊢
      exact .inl ⟨hmem, rfl, id⟩
    · rw [hset] at hmem ⊢
      exact .inl ⟨hmem, rfl, id⟩
  | note i tie =>
    change h ∈ (σ.note now i tie).dashboard.memory.held at hmem
    show (_ ∧ (σ.note now i tie).notes user? = _ ∧ _) ∨
      ∃ _ _ _ _ given, _ ∧ _ ∧ _ ∧ (σ.note now i tie).notes user? = given
    rcases σ.note_cases now i tie with hsame | ⟨asked?, begun, since, given, hvisit, hset⟩
    · rw [hsame] at hmem ⊢
      exact .inl ⟨hmem, rfl, id⟩
    · rw [hset] at hmem ⊢
      rcases mem_rememberSummary hσ hmem with ⟨hold, hne⟩ | hnew
      · -- another user's summary, so the answers kept for this one are not replaced
        have hother : user? ≠ asked? := by
          rintro rfl
          exact hne hkey
        exact .inl ⟨hold, Function.update_of_ne hother .., id⟩
      · obtain rfl : asked? = user? := summaryKey_injective (by rw [← hkey, hnew]; rfl)
        exact .inr ⟨i, tie, begun, since, given, rfl, hvisit, hnew, Function.update_self ..⟩
  | change source => exact .inl ⟨hmem, rfl, id⟩
  | invalidate user =>
    obtain ⟨hold, hne⟩ := mem_invalidate.mp hmem
    refine .inl ⟨hold, rfl, ?_⟩
    rintro rfl
    exact hne hkey
  | clear => cases hmem
  | pass sweeps start => exact .inl ⟨mem_of_mem_sweepAll hmem, rfl, id⟩

theorem worksBy_run (config : DashboardConfig) (source : DashboardSource) (events : List SharedEvent) :
    ((start config source).run events).dashboard.WorksBy config := by
  induction events using List.reverseRecOn with
  | nil => exact worksBy_start config
  | append_singleton events e ih =>
    rw [run_concat]
    exact worksBy_step ih e

theorem ticks_run (config : DashboardConfig) (source : DashboardSource) (events : List SharedEvent) :
    ((start config source).run events).ticks = events.length := by
  induction events using List.reverseRecOn with
  | nil => rfl
  | append_singleton events e ih =>
    rw [run_concat, List.length_append]
    exact congrArg (· + 1) ih

theorem begun_lt_run (config : DashboardConfig) (source : DashboardSource) (events : List SharedEvent) :
    ∀ v ∈ ((start config source).run events).visits, v.begun < events.length := by
  induction events using List.reverseRecOn with
  | nil => intro v hmem; cases hmem
  | append_singleton events e ih =>
    intro v hmem
    rw [run_concat] at hmem
    rw [List.length_append, List.length_singleton]
    cases visited_of_mem hmem with
    | old hold => exact Nat.lt_succ_of_lt (ih v hold)
    | looked user? hop =>
      rw [ticks_run]
      exact Nat.lt_succ_self _
    | answered k place hold hquery =>
      have hlt := ih _ hold
      exact Nat.lt_succ_of_lt hlt
    | noted i tie hop hvisit =>
      have hlt := ih _ (List.mem_of_getElem? hvisit)
      exact Nat.lt_succ_of_lt hlt

def undisturbed (config : DashboardConfig) (now : RequestTime) (i : Nat) (tie : TieBreak Remembered)
    (user? : Option Uuid) : List SharedEvent :=
  let n := (config.queries user?).length
  ⟨now, .look user?⟩ :: (List.replicate n ⟨now, .answer i 0 n⟩ ++ [⟨now, .note i tie⟩])

theorem run_answers_told {vs : List Visit} {user? : Option Uuid} {begun : Nat} {s : DashboardSummary}
    {given : List Given} (hvisits : σ.visits = vs ++ [⟨user?, begun, .told s given⟩]) (now : RequestTime)
    (place n : Nat) :
    σ.run (List.replicate n ⟨now, .answer vs.length 0 place⟩) = { σ with ticks := σ.ticks + n } := by
  induction n with
  | zero => rfl
  | succ n ih =>
    rw [List.replicate_succ', run_concat, ih]
    simp [step, answer, hvisits, Nat.add_assoc]

theorem run_answers_asking {vs : List Visit} {user? : Option Uuid} {begun : Nat} {since : Moment}
    {pending : List SummaryQuery} {given : List Given}
    (hvisits : σ.visits = vs ++ [⟨user?, begun, .asking since pending given⟩]) (now : RequestTime) {place : Nat} (hplace : given.length + pending.length ≤ place) :
    ∃ given', given'.map Given.outcome = pending.map (fun q => q.ask σ.source) ∧
      σ.run (List.replicate pending.length ⟨now, .answer vs.length 0 place⟩) =
        { σ with
          visits := vs ++ [⟨user?, begun, .asking since [] (given ++ given')⟩]
          ticks := σ.ticks + pending.length } := by
  induction pending generalizing σ given with
  | nil => exact ⟨[], rfl, by simp [run, ← hvisits]⟩
  | cons query pending ih =>
    let g : Given := ⟨σ.ticks, query, query.ask σ.source⟩
    have hanswer : σ.step ⟨now, .answer vs.length 0 place⟩ =
        { σ with
          visits := vs ++ [⟨user?, begun, .asking since pending (given ++ [g])⟩]
          ticks := σ.ticks + 1 } := by
      have hjoined : joinedAt place g given = given ++ [g] := joinedAt_of_length_le (by omega) g
      simp [step, answer, hvisits, g, ← hjoined]
    rw [List.length_cons] at hplace
    have hanswered : (σ.step ⟨now, .answer vs.length 0 place⟩).visits =
        vs ++ [⟨user?, begun, .asking since pending (given ++ [g])⟩] := by rw [hanswer]
    obtain ⟨given', houtcomes, hrun⟩ := ih hanswered (by rw [List.length_append, List.length_singleton]; omega)
    refine ⟨g :: given', ?_, ?_⟩
    · rw [hanswer] at houtcomes
      rw [List.map_cons, houtcomes, List.map_cons]
    · rw [List.length_cons, List.replicate_succ]
      show (σ.step _).run _ = _
      rw [hrun, hanswer]
      simp [Nat.add_assoc, Nat.add_comm 1]

theorem run_undisturbed (hσ : σ.dashboard.WorksBy config) (now : RequestTime) (tie : TieBreak Remembered)
    (user? : Option Uuid) :
    let σ' := σ.run (undisturbed config now σ.visits.length tie user?)
    let told := σ.dashboard.summary tie σ.source now user?
    σ'.dashboard = told.dashboard ∧
      ∃ given, σ'.visits = σ.visits ++ [⟨user?, σ.ticks, .told told.result given⟩] := by
  have hsplit : σ.run (undisturbed config now σ.visits.length tie user?) =
      ((σ.step ⟨now, .look user?⟩).run (List.replicate (config.queries user?).length
        ⟨now, .answer σ.visits.length 0 (config.queries user?).length⟩)).step ⟨now, .note σ.visits.length tie⟩ :=
    run_concat ..
  intro σ' told
  have hσ' : σ' = _ := hsplit
  rcases summary_cases hσ tie σ.source now user? with ⟨s, hrecalled, hhit⟩ | ⟨hno, hmiss⟩
  · have htold : told = _ := hhit
    have hlook : σ.step ⟨now, .look user?⟩ =
        { σ with
          visits := σ.visits ++ [⟨user?, σ.ticks, .told s (σ.notes user?)⟩]
          ticks := σ.ticks + 1 } := by
      simp only [step, look, hrecalled]
    rw [run_answers_told (by rw [hlook]), hlook] at hσ'
    rw [hσ', htold]
    simp [step, note]
  · have htold : told = _ := hmiss
    have hlook : σ.step ⟨now, .look user?⟩ =
        { σ with
          visits := σ.visits ++ [⟨user?, σ.ticks, .asking now.moment (config.queries user?) []⟩]
          ticks := σ.ticks + 1 } := by
      simp only [step, look, hno, hσ.config_eq]
    obtain ⟨given, houtcomes, hrun⟩ := run_answers_asking (σ := σ.step ⟨now, .look user?⟩) (by rw [hlook]) now
      (by rw [List.length_nil, Nat.zero_add])
    rw [hrun, hlook] at hσ'
    rw [hlook] at houtcomes
    have hsummary : DashboardSummary.assembled now.moment given = σ.source.summary config now.moment user? :=
      congrArg (DashboardSummary.ofOutcomes now.moment) houtcomes
    rw [hσ', htold]
    simp [step, note, hsummary]

theorem run_refresh (hσ : σ.dashboard.WorksBy config) (now : RequestTime) (tie : TieBreak Remembered) :
    let σ' := σ.run (⟨now, .clear⟩ :: undisturbed config now σ.visits.length tie none)
    let told := σ.dashboard.refresh tie σ.source now
    σ'.dashboard = told.dashboard ∧
      ∃ given, σ'.visits = σ.visits ++ [⟨none, σ.ticks + 1, .told told.result given⟩] :=
  run_undisturbed (σ := σ.step ⟨now, .clear⟩) hσ.forget now tie none

/-- The queries were put at a time at which someone looked. Each is pending or has one answer, and that is what the
source said later on. -/
structure Assembles (config : DashboardConfig) (source : DashboardSource) (events : List SharedEvent)
    (user? : Option Uuid) (since : Moment) (pending : List SummaryQuery) (given : List Given) : Prop where
  looked : ∃ n e, events[n]? = some e ∧ e.op = .look user? ∧ e.now.moment = since ∧ ∀ g ∈ given, n < g.tick
  complete : (pending ++ given.map Given.query).Perm (config.queries user?)
  said : ∀ g ∈ given, g.tick < events.length ∧
    g.outcome = g.query.ask ((start config source).run (events.take g.tick)).source

section

variable {user? : Option Uuid} {since : Moment} {pending : List SummaryQuery} {given : List Given} {e : SharedEvent}

theorem Assembles.concat (h : Assembles config source events user? since pending given) :
    Assembles config source (events ++ [e]) user? since pending given := by
  obtain ⟨n, e', hn, hlooked⟩ := h.looked
  have hlt := (List.getElem?_eq_some_iff.mp hn).1
  refine ⟨⟨n, e', (List.getElem?_append_left hlt).trans hn, hlooked⟩, h.complete, fun g hg => ?_⟩
  obtain ⟨hlt, hsaid⟩ := h.said g hg
  rw [List.length_append, List.take_append_of_le_length hlt.le]
  exact ⟨Nat.lt_add_right _ hlt, hsaid⟩

theorem Assembles.answered (h : Assembles config source events user? since pending given) {k : Nat}
    {query : SummaryQuery} (hquery : pending[k]? = some query) (place : Nat) :
    Assembles config source (events ++ [e]) user? since (pending.eraseIdx k) (joinedAt place
      ⟨events.length, query, query.ask ((start config source).run events).source⟩ given) := by
  have hjoined := joinedAt_perm place
    ⟨events.length, query, query.ask ((start config source).run events).source⟩ given
  constructor
  · obtain ⟨n, e', hn, hop, htime, hlater⟩ := h.looked
    have hlt := (List.getElem?_eq_some_iff.mp hn).1
    refine ⟨n, e', (List.getElem?_append_left hlt).trans hn, hop, htime, fun g hg => ?_⟩
    rcases List.mem_cons.mp (hjoined.subset hg) with rfl | hold
    · exact hlt
    · exact hlater g hold
  · obtain ⟨hk, rfl⟩ := List.getElem?_eq_some_iff.mp hquery
    have hlast := (hjoined.map Given.query).append_left (pending.eraseIdx k)
    have hfirst := (List.getElem_cons_eraseIdx_perm hk).append_right (given.map Given.query)
    exact ((hlast.trans List.perm_middle).trans hfirst).trans h.complete
  · intro g hg
    rcases List.mem_cons.mp (hjoined.subset hg) with rfl | hold
    · rw [List.length_append, List.take_append_of_le_length le_rfl, List.take_length]
      exact ⟨Nat.lt_succ_self _, rfl⟩
    · exact h.concat.said g hold

end

def TruthfulStage (config : DashboardConfig) (source : DashboardSource) (events : List SharedEvent)
    (user? : Option Uuid) : VisitStage → Prop
  | .asking since pending given => Assembles config source events user? since pending given
  | .told s given => ∃ since, s = .assembled since given ∧ Assembles config source events user? since [] given

theorem TruthfulStage.concat {user? : Option Uuid} {stage : VisitStage}
    (h : TruthfulStage config source events user? stage) (e : SharedEvent) :
    TruthfulStage config source (events ++ [e]) user? stage := by
  cases stage with
  | asking since pending given => exact Assembles.concat h
  | told s given =>
    obtain ⟨since, hs, hassembles⟩ := h
    exact ⟨since, hs, hassembles.concat⟩

structure Truthful (config : DashboardConfig) (source : DashboardSource) (events : List SharedEvent) : Prop where
  visits : ∀ v ∈ ((start config source).run events).visits, TruthfulStage config source events v.user? v.stage
  held : ∀ h ∈ ((start config source).run events).dashboard.memory.held, ∀ user?, h.key = summaryKey user? →
    ∃ s, h.value = .summary s ∧
      TruthfulStage config source events user? (.told s (((start config source).run events).notes user?))

theorem Truthful.visits_step (h : Truthful config source events) {e : SharedEvent} {v : Visit}
    (hmem : v ∈ (((start config source).run events).step e).visits) :
    TruthfulStage config source (events ++ [e]) v.user? v.stage := by
  cases visited_of_mem hmem with
  | old hold => exact (h.visits v hold).concat e
  | looked user? hop =>
    show TruthfulStage config source (events ++ [e]) user? (((start config source).run events).look e.now user?)
    rcases ((start config source).run events).look_cases e.now user? with ⟨s, g, hg, hkey, hvalue, hlook⟩ | hlook
    · obtain ⟨s', hvalue', htold⟩ := h.held g hg user? hkey
      obtain rfl : s = s' := by simpa using hvalue.symm.trans hvalue'
      rw [hlook]
      exact htold.concat e
    · rw [hlook, (worksBy_run config source events).config_eq]
      refine ⟨⟨events.length, e, List.getElem?_concat_length, hop, rfl, by simp⟩, by simp, by simp⟩
  | answered k place hold hquery =>
    rw [ticks_run]
    exact Assembles.answered (h.visits _ hold) hquery place
  | noted i tie hop hvisit =>
    have hstage := h.visits _ (List.mem_of_getElem? hvisit)
    exact ⟨_, rfl, Assembles.concat hstage⟩

theorem Truthful.held_step (h : Truthful config source events) {e : SharedEvent} {n : Held Remembered}
    (hmem : n ∈ (((start config source).run events).step e).dashboard.memory.held) {user? : Option Uuid}
    (hkey : n.key = summaryKey user?) :
    ∃ s, n.value = .summary s ∧ TruthfulStage config source (events ++ [e]) user?
      (.told s ((((start config source).run events).step e).notes user?)) := by
  rcases mem_step (worksBy_run config source events) hmem hkey with
    ⟨hold, hsame, -⟩ | ⟨i, tie, begun, since, given, hop, hvisit, rfl, hnotes⟩
  · obtain ⟨s, hvalue, htold⟩ := h.held n hold user? hkey
    rw [hsame]
    exact ⟨s, hvalue, htold.concat e⟩
  · have hstage := h.visits _ (List.mem_of_getElem? hvisit)
    rw [hnotes]
    exact ⟨_, rfl, _, rfl, Assembles.concat hstage⟩

theorem truthful_run (config : DashboardConfig) (source : DashboardSource) (events : List SharedEvent) :
    Truthful config source events := by
  induction events using List.reverseRecOn with
  | nil => exact ⟨nofun, nofun⟩
  | append_singleton events e ih =>
    constructor
    · intro v hmem
      rw [run_concat] at hmem
      exact ih.visits_step hmem
    · intro n hmem user? hkey
      rw [run_concat] at hmem ⊢
      exact ih.held_step hmem hkey

end SharedDashboard

end PortfolioReports
