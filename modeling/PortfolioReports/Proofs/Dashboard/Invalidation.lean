import PortfolioReports.Proofs.Dashboard.Visits

/-!
An invalidation drops what is remembered, and not what is on its way.
-/

namespace PortfolioReports

open Calendar Memory Dashboard

namespace SharedDashboard

variable {config : DashboardConfig} {source : DashboardSource} {events : List SharedEvent} {user? : Option Uuid}
  {n : Nat}

/-- What a visit is told that began after an invalidation rests on answers given after it. -/
def InvalidationHolds (config : DashboardConfig) (source : DashboardSource) (events : List SharedEvent) : Prop :=
  ∀ before e after user?, events = before ++ e :: after → e.op.Invalidates user? →
    ∀ v ∈ ((start config source).run events).visits, v.user? = user? → before.length < v.begun →
      ∀ s given, v.stage = .told s given → ∀ g ∈ given, before.length < g.tick

/-- No visit notes, after an invalidation, a summary that rests on an answer given before it. -/
def NoLateNote (config : DashboardConfig) (source : DashboardSource) (events : List SharedEvent) : Prop :=
  ∀ before e middle now i tie after user? begun since given,
    events = before ++ e :: middle ++ ⟨now, .note i tie⟩ :: after → e.op.Invalidates user? →
    ((start config source).run (before ++ e :: middle)).visits[i]? = some ⟨user?, begun, .asking since [] given⟩ →
      ∀ g ∈ given, before.length < g.tick

structure FreshSince (σ : SharedDashboard) (user? : Option Uuid) (n : Nat) : Prop where
  late : n < σ.ticks
  held : ∀ h ∈ σ.dashboard.memory.held, h.key = summaryKey user? → ∀ g ∈ σ.notes user?, n < g.tick
  visits : ∀ v ∈ σ.visits, v.user? = user? → n < v.begun → ∀ g ∈ v.stage.given, n < g.tick

theorem FreshSince.visits_step {σ : SharedDashboard} (h : FreshSince σ user? n) {e : SharedEvent} {v : Visit}
    (hmem : v ∈ (σ.step e).visits) (huser : v.user? = user?) (hbegun : n < v.begun) :
    ∀ g ∈ v.stage.given, n < g.tick := by
  cases visited_of_mem hmem with
  | old hold => exact h.visits v hold huser hbegun
  | looked asked? hop =>
    obtain rfl : asked? = user? := huser
    show ∀ g ∈ (σ.look e.now asked?).given, n < g.tick
    rcases σ.look_cases e.now asked? with ⟨s, noted, hnoted, hkey, -, hlook⟩ | hlook
    · rw [hlook]
      exact h.held noted hnoted hkey
    · rw [hlook]
      intro g hg
      cases hg
  | answered k place hold hquery =>
    intro g hg
    rcases List.mem_cons.mp ((joinedAt_perm ..).subset hg) with rfl | hbefore
    · exact h.late
    · exact h.visits _ hold huser hbegun g hbefore
  | noted i tie hop hvisit =>
    have hasked := h.visits _ (List.mem_of_getElem? hvisit) huser hbegun
    exact hasked

theorem FreshSince.step {σ : SharedDashboard} (hσ : σ.dashboard.WorksBy config) (h : FreshSince σ user? n)
    {e : SharedEvent} (hnote : ∀ i tie begun since given, e.op = .note i tie →
      σ.visits[i]? = some ⟨user?, begun, .asking since [] given⟩ → ∀ g ∈ given, n < g.tick) :
    FreshSince (σ.step e) user? n where
  late := Nat.lt_succ_of_lt h.late
  held := by
    intro noted hmem hkey
    rcases mem_step hσ hmem hkey with ⟨hold, hsame, -⟩ | ⟨i, tie, begun, since, given, hop, hvisit, -, hnotes⟩
    · rw [hsame]
      exact h.held noted hold hkey
    · rw [hnotes]
      exact hnote i tie begun since given hop hvisit
  visits _ hmem := h.visits_step hmem

theorem freshSince_of_invalidates (config : DashboardConfig) (source : DashboardSource)
    (events : List SharedEvent) {e : SharedEvent} (he : e.op.Invalidates user?) :
    FreshSince (((start config source).run events).step e) user? events.length where
  late := by
    show events.length < ((start config source).run events).ticks + 1
    rw [ticks_run]
    exact Nat.lt_succ_self _
  held := by
    intro noted hmem hkey
    rcases mem_step (worksBy_run config source events) hmem hkey with ⟨-, -, hnot⟩ | ⟨i, tie, begun, since, given, hop, -⟩
    · exact absurd he hnot
    · rw [hop] at he
      exact he.elim
  visits := by
    intro v hmem huser hbegun
    -- every visit so far began before the invalidation
    rw [← run_concat] at hmem
    have hlt := begun_lt_run config source (events ++ [e]) v hmem
    rw [List.length_append, List.length_singleton] at hlt
    omega

theorem NoLateNote.of_append {events' : List SharedEvent} (h : NoLateNote config source (events ++ events')) :
    NoLateNote config source events := by
  intro before e middle now i tie after user? begun since given hevents
  exact h before e middle now i tie (after ++ events') user? begun since given (by rw [hevents]; simp)

theorem NoLateNote.freshSince_run {before middle : List SharedEvent} {e : SharedEvent}
    (h : NoLateNote config source (before ++ e :: middle)) (he : e.op.Invalidates user?) :
    FreshSince ((start config source).run (before ++ e :: middle)) user? before.length := by
  induction middle using List.reverseRecOn with
  | nil =>
    rw [run_concat]
    exact freshSince_of_invalidates config source before he
  | append_singleton middle e' ih =>
    have hsplit : before ++ e :: (middle ++ [e']) = before ++ e :: middle ++ [e'] := by simp
    rw [hsplit] at h ⊢
    rw [run_concat]
    refine (ih h.of_append).step (worksBy_run config source _) ?_
    obtain ⟨now, op⟩ := e'
    rintro i tie begun since given rfl hvisit
    exact h before e middle now i tie [] user? begun since given rfl he hvisit

theorem NoLateNote.invalidationHolds (h : NoLateNote config source events) :
    InvalidationHolds config source events := by
  rintro before e after user? rfl he v hmem huser hbegun s given hstage
  have hfresh := (h.freshSince_run he).visits v hmem huser hbegun
  rwa [hstage] at hfresh

theorem NoLateNote.concat_look (h : NoLateNote config source events) (now : RequestTime) (user? : Option Uuid) :
    NoLateNote config source (events ++ [⟨now, .look user?⟩]) := by
  intro before e middle now' i tie after other? begun since given hevents
  rcases List.eq_nil_or_concat after with rfl | ⟨after', last, rfl⟩
  · have hlast := (List.append_inj' hevents rfl).2
    cases hlast
  · have hevents' : events ++ [⟨now, .look user?⟩] =
        (before ++ e :: middle ++ ⟨now', .note i tie⟩ :: after') ++ [last] := by rw [hevents]; simp
    exact h before e middle now' i tie after' other? begun since given (List.append_inj' hevents' rfl).1

theorem look_note {σ : SharedDashboard} (hσ : σ.dashboard.WorksBy config)
    (hkept : 0 < config.lasting config.summaryTtl) {i begun : Nat} {since : Moment} {given : List Given}
    (hvisit : σ.visits[i]? = some ⟨user?, begun, .asking since [] given⟩) (now : RequestTime) (tie : TieBreak Remembered) :
    (σ.step ⟨now, .note i tie⟩).look now user? = .told (.assembled since given) given := by
  have hnote : σ.step ⟨now, .note i tie⟩ = { σ with
      dashboard := σ.dashboard.rememberSummary tie now.instant user? (.assembled since given)
      visits := σ.visits.set i ⟨user?, begun, .told (.assembled since given) given⟩
      notes := Function.update σ.notes user? given
      ticks := σ.ticks + 1 } := by
    simp only [step, note, hvisit]
  have hfound : (σ.dashboard.rememberSummary tie now.instant user? (.assembled since given)).memory.get? now.instant
      (summaryKey user?) = some (.summary (.assembled since given)) := by
    have httl : now.instant < now.instant + σ.dashboard.memory.ttlOf σ.dashboard.config.summaryTtl := by
      rw [hσ.ttlOf, hσ.config_eq]
      exact Nat.lt_add_of_pos_right hkept
    simp [rememberSummary, Memory.set, Memory.get?, find?, httl]
  have hrecalled := recalledSummary?_eq_some_iff.mpr hfound
  rw [hnote]
  simp [look, hrecalled]

theorem noLateNote_of_invalidationHolds (hkept : 0 < config.lasting config.summaryTtl)
    (h : ∀ seen, seen <+: events → ∀ now user?, InvalidationHolds config source (seen ++ [⟨now, .look user?⟩])) :
    NoLateNote config source events := by
  intro before e middle now i tie after user? begun since given hevents he hvisit
  -- whoever looks right after the note is told what it noted
  let noted := before ++ e :: middle ++ [⟨now, .note i tie⟩]
  have hprefix : noted <+: events := ⟨after, by rw [hevents]; simp [noted]⟩
  have hsplit : noted ++ [⟨now, .look user?⟩] =
      before ++ e :: (middle ++ [⟨now, .note i tie⟩, ⟨now, .look user?⟩]) := by simp [noted]
  have htold : ((start config source).run noted).look now user? = .told (.assembled since given) given := by
    rw [run_concat]
    exact look_note (worksBy_run config source _) hkept hvisit now tie
  have hvisited : ⟨user?, noted.length, .told (.assembled since given) given⟩ ∈
      ((start config source).run (noted ++ [⟨now, .look user?⟩])).visits := by
    rw [run_concat]
    refine List.mem_append_right _ (List.mem_singleton.mpr ?_)
    rw [ticks_run, htold]
  exact h noted hprefix now user? before e _ user? hsplit he _ hvisited rfl (by simp [noted]) _ _ rfl

theorem invalidationHolds_iff_noLateNote (config : DashboardConfig) (source : DashboardSource)
    (events : List SharedEvent) (hkept : 0 < config.lasting config.summaryTtl) :
    Truthful config source events ∧
      ((InvalidationHolds config source events ∧
          ∀ seen, seen <+: events → ∀ now user?, InvalidationHolds config source (seen ++ [⟨now, .look user?⟩])) ↔
        NoLateNote config source events) := by
  refine ⟨truthful_run config source events, fun h => noLateNote_of_invalidationHolds hkept h.2, fun h => ?_⟩
  refine ⟨h.invalidationHolds, ?_⟩
  rintro seen ⟨rest, rfl⟩ now user?
  exact (h.of_append.concat_look now user?).invalidationHolds

def answeredBefore (user? : Option Uuid) : List SharedEvent :=
  ⟨requestAt 0, .look user?⟩ ::
    (List.replicate 6 ⟨requestAt 0, .answer 0 0 0⟩ ++ [⟨requestAt 0, .change (projectsOnly 4)⟩])

def notedAfter (user? : Option Uuid) : List SharedEvent :=
  ⟨requestAt 1, .look user?⟩ :: (List.replicate 6 ⟨requestAt 1, .answer 1 0 0⟩ ++
    [⟨requestAt 1, .note 1 fun _ => 0⟩, ⟨requestAt 2, .note 0 fun _ => 0⟩, ⟨requestAt 3, .look user?⟩])

def overtaken (user? : Option Uuid) (drop : SharedOp) : List SharedEvent :=
  answeredBefore user? ++ ⟨requestAt 0, drop⟩ :: notedAfter user?

/-- Who the third visit was for, when it began, how many projects it was told of and upon which answers. -/
def toldThird (events : List SharedEvent) : Option (Option Uuid × Nat × Nat × List Nat) :=
  ((start shortLived (projectsOnly 3)).run events).visits[2]?.bind fun v =>
    match v.stage with
    | .told s given => some (v.user?, v.begun, s.projects, given.map Given.tick)
    | .asking .. => none

theorem not_invalidationHolds_overtaken {drop : SharedOp} (hdrop : drop.Invalidates user?)
    (hthird : toldThird (overtaken user? drop) = some (user?, 18, 3, [6, 5, 4, 3, 2, 1])) :
    ¬ InvalidationHolds shortLived (projectsOnly 3) (overtaken user? drop) := by
  intro h
  rw [toldThird, Option.bind_eq_some_iff] at hthird
  obtain ⟨⟨asked?, begun, stage⟩, hvisit, hstage⟩ := hthird
  cases stage with
  | asking pending given => cases hstage
  | told s given =>
    obtain ⟨rfl, rfl, -, hticks⟩ : asked? = user? ∧ begun = 18 ∧ s.projects = 3 ∧
        given.map Given.tick = [6, 5, 4, 3, 2, 1] := by simpa using hstage
    obtain ⟨g, hg, htick⟩ : ∃ g ∈ given, g.tick = 6 := List.mem_map.mp (by simp [hticks])
    have hlength : (answeredBefore asked?).length = 8 := rfl
    have hafter := h (answeredBefore asked?) ⟨requestAt 0, drop⟩ (notedAfter asked?) asked? rfl hdrop
    rw [hlength] at hafter
    have hbegun : 8 < 18 := by decide
    have hlt := hafter _ (List.mem_of_getElem? hvisit) rfl hbegun s given rfl g hg
    omega

theorem invalidationHolds_iff_noLateNote_overtaken :
    0 < shortLived.lasting shortLived.summaryTtl ∧
      Truthful shortLived (projectsOnly 3) (overtaken none .clear) ∧
      ¬ NoLateNote shortLived (projectsOnly 3) (overtaken none .clear) := by
  have hkept : 0 < shortLived.lasting shortLived.summaryTtl := by decide
  obtain ⟨htruthful, hiff⟩ :=
    invalidationHolds_iff_noLateNote shortLived (projectsOnly 3) (overtaken none .clear) hkept
  have hlate : ¬ InvalidationHolds shortLived (projectsOnly 3) (overtaken none .clear) :=
    not_invalidationHolds_overtaken trivial (by decide +kernel)
  exact ⟨hkept, htruthful, fun hnot => hlate (hiff.mpr hnot).1⟩

theorem overtaken_tells_old :
    ¬ InvalidationHolds shortLived (projectsOnly 3) (overtaken none .clear) ∧
      ¬ InvalidationHolds shortLived (projectsOnly 3) (overtaken (some .nil) (.invalidate .nil)) :=
  ⟨not_invalidationHolds_overtaken trivial (by decide +kernel),
    not_invalidationHolds_overtaken rfl (by decide +kernel)⟩

end SharedDashboard

end PortfolioReports
