import PortfolioReports.Proofs.Dashboard.Visits
import PortfolioReports.Proofs.Json.SortedEntries

namespace PortfolioReports

namespace Outcome

variable {α β : Type}

def value? : Outcome α → Option α
  | value a => some a
  | failed _ => none
  | crashed => none

@[simp] theorem value?_map (f : α → β) (o : Outcome α) : (o.map f).value? = o.value?.map f := by
  cases o <;> rfl

theorem value?_eq_some_iff {o : Outcome α} {a : α} : o.value? = some a ↔ o = value a := by
  cases o <;> simp [value?]

end Outcome

namespace DashboardSummary

open Calendar

variable {source : DashboardSource} {c : DashboardConfig} {user? : Option Uuid}

@[simp] theorem cachedAt_add (s : DashboardSummary) (part : SummaryPart) : (s.add part).cachedAt = s.cachedAt := by
  cases part <;> rfl

@[simp] theorem cachedAt_absorb (s : DashboardSummary) (o : Outcome SummaryPart) :
    (s.absorb o).cachedAt = s.cachedAt := by
  cases o with
  | value part => exact cachedAt_add s part
  | failed cause => rfl
  | crashed => rfl

theorem cachedAt_ofOutcomes (now : Moment) (outcomes : List (Outcome SummaryPart)) :
    (ofOutcomes now outcomes).cachedAt = now := by
  induction outcomes using List.reverseRecOn with
  | nil => rfl
  | append_singleton outcomes o ih => rw [ofOutcomes, List.foldl_concat, cachedAt_absorb, ← ofOutcomes, ih]

theorem absorb_eq (s : DashboardSummary) (o : Outcome SummaryPart) : s.absorb o = o.value?.elim s s.add := by
  cases o <;> rfl

def heard {α : Type} (answered : List SummaryQuery) (q : SummaryQuery) (o : Outcome α) : Option α :=
  if q ∈ answered then o.value? else none

section Heard

variable {α : Type} {answered : List SummaryQuery} {q q' : SummaryQuery} {o : Outcome α}

theorem heard_of_mem (h : q ∈ answered) : heard answered q o = o.value? := if_pos h

theorem heard_concat_self : heard (answered ++ [q]) q o = o.value? := heard_of_mem (by simp)

theorem heard_concat_of_ne (h : q' ≠ q) : heard (answered ++ [q]) q' o = heard answered q' o := by
  simp [heard, h]

theorem heard_concat_of_none (h : q' = q → o.value? = none) :
    heard (answered ++ [q]) q' o = heard answered q' o := by
  by_cases heq : q' = q
  · rw [heard, heard, h heq, ite_self, ite_self]
  · exact heard_concat_of_ne heq

end Heard

structure ShowsOf (source : DashboardSource) (c : DashboardConfig) (user? : Option Uuid)
    (answered : List SummaryQuery) (s : DashboardSummary) : Prop where
  projects : s.projects = (heard answered (.projects user?) (source.projects user?)).getD 0
  credits : s.credits = (heard answered (.credits user?) (source.credits user?)).getD 0
  revenue : s.revenue = (heard answered (.revenue user?) (source.revenue user?)).getD 0
  areas : s.areas = (heard answered (.areas user?) (source.areas user?)).getD 0
  activity : s.activity =
    (heard answered (.activity user? c.activityLimit) (source.activity user? c.activityLimit)).getD []
  metrics : ∀ name, s.metrics.lookup name =
    (heard answered (.metric name c.metricPeriod) (source.metric name c.metricPeriod)).map .of
  sorted : (s.metrics.map Prod.fst).Pairwise (· < ·)

theorem showsOf_empty (source : DashboardSource) (c : DashboardConfig) (now : Moment) (user? : Option Uuid) :
    ShowsOf source c user? [] (empty now) where
  projects := rfl
  credits := rfl
  revenue := rfl
  areas := rfl
  activity := rfl
  metrics _ := rfl
  sorted := .nil

theorem mem_queries {q : SummaryQuery} : q ∈ c.queries user? ↔
    q = .projects user? ∨ q = .credits user? ∨ q = .revenue user? ∨ q = .areas user? ∨
      q = .activity user? c.activityLimit ∨ ∃ name ∈ c.metrics, q = .metric name c.metricPeriod := by
  simp [DashboardConfig.queries, eq_comm]

section Step

variable {answered : List SummaryQuery} {s : DashboardSummary} {q : SummaryQuery}

theorem ShowsOf.skip (h : ShowsOf source c user? answered s) (hnone : (q.ask source).value? = none) :
    ShowsOf source c user? (answered ++ [q]) s := by
  obtain ⟨hprojects, hcredits, hrevenue, hareas, hactivity, hmetrics, hsorted⟩ := h
  have hsame : ∀ {β : Type} (o : Outcome β) (q' : SummaryQuery) (part : β → SummaryPart),
      q'.ask source = o.map part → heard (answered ++ [q]) q' o = heard answered q' o := by
    intro β o q' part hask
    refine heard_concat_of_none ?_
    rintro rfl
    simpa [hask] using hnone
  constructor
  · rw [hprojects, hsame _ _ .projects rfl]
  · rw [hcredits, hsame _ _ .credits rfl]
  · rw [hrevenue, hsame _ _ .revenue rfl]
  · rw [hareas, hsame _ _ .areas rfl]
  · rw [hactivity, hsame _ _ .activity rfl]
  · intro name
    rw [hmetrics, hsame _ _ (fun r => .metric name (.of r)) rfl]
  · exact hsorted

theorem ShowsOf.addMetric (h : ShowsOf source c user? answered s) {name : String} {m : MetricReading}
    (hm : (source.metric name c.metricPeriod).value? = some m) :
    ShowsOf source c user? (answered ++ [.metric name c.metricPeriod]) (s.add (.metric name (.of m))) := by
  obtain ⟨hprojects, hcredits, hrevenue, hareas, hactivity, hmetrics, hsorted⟩ := h
  have hmetric : ∀ name', (insertSorted name (.of m) s.metrics).lookup name' =
      (heard (answered ++ [.metric name c.metricPeriod]) (.metric name' c.metricPeriod)
        (source.metric name' c.metricPeriod)).map .of := by
    intro name'
    rw [lookup_insertSorted]
    split
    · rename_i heq
      rw [heq, heard_concat_self, hm]
      rfl
    · rename_i hne
      rw [heard_concat_of_ne (by simpa using hne), hmetrics]
  constructor
  case metrics => exact hmetric
  case sorted => exact pairwise_insertSorted hsorted
  all_goals simp_all [DashboardSummary.add, heard_concat_of_ne]

theorem ShowsOf.add (h : ShowsOf source c user? answered s) (hq : q ∈ c.queries user?) {part : SummaryPart}
    (hpart : (q.ask source).value? = some part) : ShowsOf source c user? (answered ++ [q]) (s.add part) := by
  rcases mem_queries.mp hq with rfl | rfl | rfl | rfl | rfl | ⟨name, -, rfl⟩
  all_goals obtain ⟨a, ha, rfl⟩ := Option.map_eq_some_iff.mp ((Outcome.value?_map ..).symm.trans hpart)
  on_goal 6 => exact h.addMetric ha
  -- the part of the query is set, and that of any other is as it was
  all_goals
    obtain ⟨hprojects, hcredits, hrevenue, hareas, hactivity, hmetrics, hsorted⟩ := h
    constructor <;> simp_all [DashboardSummary.add, heard_concat_self, heard_concat_of_ne]

theorem ShowsOf.absorb (h : ShowsOf source c user? answered s) (hq : q ∈ c.queries user?) :
    ShowsOf source c user? (answered ++ [q]) (s.absorb (q.ask source)) := by
  rw [absorb_eq]
  cases hpart : (q.ask source).value? with
  | none => exact h.skip hpart
  | some part => exact h.add hq hpart

end Step

theorem showsOf_ofOutcomes (now : Moment) {answered : List SummaryQuery}
    (h : ∀ q ∈ answered, q ∈ c.queries user?) :
    ShowsOf source c user? answered (ofOutcomes now (answered.map fun q => q.ask source)) := by
  induction answered using List.reverseRecOn with
  | nil => exact showsOf_empty source c now user?
  | append_singleton answered q ih =>
    have hlast := h q (by simp)
    have hbefore := ih fun q' hq' => h q' (List.mem_append_left _ hq')
    rw [ofOutcomes, List.map_append, List.foldl_append]
    exact hbefore.absorb hlast

/-- Each part is the value of its query, or empty where the query got none; the metrics are those whose query got a
value, each once. -/
structure Shows (source : DashboardSource) (c : DashboardConfig) (user? : Option Uuid) (s : DashboardSummary) :
    Prop where
  projects : s.projects = (source.projects user?).value?.getD 0
  credits : s.credits = (source.credits user?).value?.getD 0
  revenue : s.revenue = (source.revenue user?).value?.getD 0
  areas : s.areas = (source.areas user?).value?.getD 0
  activity : s.activity = (source.activity user? c.activityLimit).value?.getD []
  metrics : ∀ name m, (name, m) ∈ s.metrics ↔
    name ∈ c.metrics ∧ ∃ r, source.metric name c.metricPeriod = .value r ∧ m = .of r
  sorted : (s.metrics.map Prod.fst).Pairwise (· < ·)

theorem ShowsOf.shows {answered : List SummaryQuery} {s : DashboardSummary}
    (h : ShowsOf source c user? answered s) (hall : ∀ q, q ∈ answered ↔ q ∈ c.queries user?) :
    Shows source c user? s := by
  have hmem : ∀ {q}, q ∈ c.queries user? → q ∈ answered := fun hq => (hall _).mpr hq
  constructor
  · rw [h.projects, heard_of_mem (hmem (by simp [mem_queries]))]
  · rw [h.credits, heard_of_mem (hmem (by simp [mem_queries]))]
  · rw [h.revenue, heard_of_mem (hmem (by simp [mem_queries]))]
  · rw [h.areas, heard_of_mem (hmem (by simp [mem_queries]))]
  · rw [h.activity, heard_of_mem (hmem (by simp [mem_queries]))]
  · intro name m
    have hasked : SummaryQuery.metric name c.metricPeriod ∈ answered ↔ name ∈ c.metrics := by
      simp [hall, mem_queries]
    rw [← lookup_eq_some_iff_mem (nodup_of_sorted h.sorted), h.metrics, heard]
    simp [hasked, ← Outcome.value?_eq_some_iff, and_assoc, eq_comm (a := m)]
  · exact h.sorted

theorem Shows.unique {s s' : DashboardSummary} (h : Shows source c user? s) (h' : Shows source c user? s')
    (htime : s.cachedAt = s'.cachedAt) : s = s' := by
  have hmetrics : s.metrics = s'.metrics :=
    eq_of_sorted_of_mem_iff h.sorted h'.sorted fun e => (h.metrics e.1 e.2).trans (h'.metrics e.1 e.2).symm
  obtain ⟨projects, credits, revenue, areas, activity, metrics, cachedAt⟩ := s
  obtain ⟨projects', credits', revenue', areas', activity', metrics', cachedAt'⟩ := s'
  have hprojects : projects = projects' := h.projects.trans h'.projects.symm
  have hcredits : credits = credits' := h.credits.trans h'.credits.symm
  have hrevenue : revenue = revenue' := h.revenue.trans h'.revenue.symm
  have hareas : areas = areas' := h.areas.trans h'.areas.symm
  have hactivity : activity = activity' := h.activity.trans h'.activity.symm
  have hcachedAt : cachedAt = cachedAt' := htime
  subst hprojects hcredits hrevenue hareas hactivity hcachedAt
  rw [show metrics = metrics' from hmetrics]

theorem shows_of_perm (source : DashboardSource) (now : Moment) {finished : List SummaryQuery}
    (hperm : finished.Perm (c.queries user?)) :
    Shows source c user? (ofOutcomes now (finished.map fun q => q.ask source)) :=
  (showsOf_ofOutcomes now fun _ hq => hperm.mem_iff.mp hq).shows fun _ => hperm.mem_iff

theorem ofOutcomes_anyOrder (source : DashboardSource) (c : DashboardConfig) (now : Moment) (user? : Option Uuid)
    (finished : List SummaryQuery) (hperm : finished.Perm (c.queries user?)) :
    let s := ofOutcomes now (finished.map fun q => q.ask source)
    s = source.summary c now user? ∧ Shows source c user? s ∧ s.cachedAt = now := by
  intro s
  have hs : Shows source c user? s := shows_of_perm source now hperm
  have hnow : s.cachedAt = now := cachedAt_ofOutcomes ..
  have hsource : (source.summary c now user?).cachedAt = now := cachedAt_ofOutcomes ..
  exact ⟨hs.unique (shows_of_perm source now (.refl _)) (hnow.trans hsource.symm), hs, hnow⟩

def patchy : DashboardSource where
  projects _ := .value 42
  credits _ := .failed (.dataSource "no connection")
  revenue _ := .value 7.5
  areas _ := .crashed
  activity _ _ := .value []
  metric name _ := if name = "revenue" then .value ⟨120, 100, "30d"⟩ else
    if name = "coverage" then .value ⟨3, 0, "30d"⟩ else .crashed
  series _ := .ok []

def askingTwice : DashboardConfig := { shortLived with metrics := ["revenue", "credits_issued", "coverage", "revenue"] }

theorem ofOutcomes_anyOrder_patchy :
    let finished := (askingTwice.queries none).reverse
    let now := (requestAt 0).moment
    let s := ofOutcomes now (finished.map fun q => q.ask patchy)
    finished.Perm (askingTwice.queries none) ∧ finished ≠ askingTwice.queries none ∧
      s = patchy.summary askingTwice now none ∧ Shows patchy askingTwice none s ∧ s.projects = 42 ∧ s.areas = 0 ∧
      s.metrics.map Prod.fst = ["coverage", "revenue"] := by
  intro finished now s
  have hperm : finished.Perm (askingTwice.queries none) := List.reverse_perm _
  obtain ⟨hsame, hshows, -⟩ := ofOutcomes_anyOrder patchy askingTwice now none finished hperm
  exact ⟨hperm, by decide, hsame, hshows, hshows.projects, hshows.areas, by decide +kernel⟩

end DashboardSummary

namespace SharedDashboard

variable {config : DashboardConfig} {source : DashboardSource} {events : List SharedEvent}

theorem source_step (σ : SharedDashboard) {e : SharedEvent} (h : ∀ source', e.op ≠ .change source') :
    (σ.step e).source = σ.source := by
  obtain ⟨now, op⟩ := e
  cases op with
  | look user? => rfl
  | answer i k place =>
    show (σ.answer i k place).source = σ.source
    rcases σ.answer_cases i k place with hsame | ⟨user?, begun, since, pending, given, query, -, -, hset⟩
    · rw [hsame]
    · rw [hset]
  | note i tie =>
    show (σ.note now i tie).source = σ.source
    rcases σ.note_cases now i tie with hsame | ⟨user?, begun, since, given, -, hset⟩
    · rw [hsame]
    · rw [hset]
  | change source' => exact absurd rfl (h source')
  | invalidate user => rfl
  | clear => rfl
  | pass sweeps start => rfl

theorem source_run (σ : SharedDashboard) (h : ∀ e ∈ events, ∀ source', e.op ≠ .change source') :
    (σ.run events).source = σ.source := by
  induction events using List.reverseRecOn with
  | nil => rfl
  | append_singleton events e ih =>
    rw [run_concat, source_step _ (h e (by simp)), ih fun e' he' => h e' (List.mem_append_left _ he')]

/-- While the source stays the same, all that visits are told is what it says, whatever the other visits do. -/
theorem told_shows (h : ∀ e ∈ events, ∀ source', e.op ≠ .change source') {v : Visit}
    (hv : v ∈ ((start config source).run events).visits) {s : DashboardSummary} {given : List Given}
    (htold : v.stage = .told s given) : DashboardSummary.Shows source config v.user? s := by
  have hstage := (truthful_run config source events).visits v hv
  rw [htold] at hstage
  obtain ⟨since, rfl, hassembles⟩ := hstage
  have hsaid : given.map Given.outcome = (given.map Given.query).map fun q => q.ask source := by
    rw [List.map_map]
    refine List.map_congr_left fun g hg => ?_
    have hsource : ((start config source).run (events.take g.tick)).source = source :=
      source_run _ fun e he => h e (List.mem_of_mem_take he)
    rw [(hassembles.said g hg).2, hsource]
    rfl
  rw [DashboardSummary.assembled, hsaid]
  exact DashboardSummary.shows_of_perm source since hassembles.complete

end SharedDashboard

end PortfolioReports
