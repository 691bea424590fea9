import PortfolioReports.Proofs.Dashboard.History

namespace PortfolioReports

open Calendar Memory Dashboard

namespace Station

variable {config : DashboardConfig} {source : DashboardSource} {events : List DashboardEvent}

/-- The summary is what the source said when the same was asked for before: at an instant it is still kept, and
nothing has dropped it since. -/
def ToldBefore (config : DashboardConfig) (source : DashboardSource) (events : List DashboardEvent) (now : Nat)
    (user? : Option Uuid) (s : DashboardSummary) : Prop :=
  ∃ before e after, events = before ++ e :: after ∧ e.op.Builds user? ∧ e.now.instant ≤ now ∧
    now - e.now.instant < config.lasting config.summaryTtl ∧ (∀ e' ∈ after, ¬ e'.op.Drops user?) ∧
    s = ((start config source).run before).source.summary config e.now.moment user?

theorem toldBefore_of_get? {now : Nat} (hclock : ClockUpTo events now)
    {user? : Option Uuid} {value : Remembered}
    (hfound : ((start config source).run events).dashboard.memory.get? now (summaryKey user?) = some value) :
    ∃ s, value = .summary s ∧ ToldBefore config source events now user? s := by
  obtain ⟨h, hnoted, hkey, hvalue, hlt⟩ := noted_of_get? hfound
  cases hnoted with
  | summary before e after told? hsplit hbuilds hkept =>
    obtain rfl : told? = user? := summaryKey_injective hkey
    have hle : e.now.instant ≤ now := hclock.instant_le (by simp [hsplit])
    have hyoung : now < e.now.instant + config.lasting config.summaryTtl := hlt
    exact ⟨_, hvalue.symm, before, e, after, hsplit, hbuilds, hle, by omega, hkept, rfl⟩
  | series before e after q points hsplit hop hpoints => exact absurd hkey (seriesKey_ne_summaryKey q user?)

theorem length_queries (config : DashboardConfig) (user? : Option Uuid) :
    (config.queries user?).length = 5 + config.metrics.length := by
  rw [DashboardConfig.queries, List.length_append, List.length_map]
  rfl

theorem summary_boundedStale (config : DashboardConfig) (source : DashboardSource) (events : List DashboardEvent)
    (tie : TieBreak Remembered) (now : RequestTime) (user? : Option Uuid)
    (hclock : ClockUpTo events now.instant) :
    let σ := (start config source).run events
    let told := σ.dashboard.summary tie σ.source now user?
    (σ.dashboard.memory.get? now.instant (summaryKey user?) = some (.summary told.result) ∧ told.asked = [] ∧
        ToldBefore config source events now.instant user? told.result ∨
      σ.dashboard.memory.get? now.instant (summaryKey user?) = none ∧ told.asked = config.queries user? ∧
        told.result = σ.source.summary config now.moment user?) ∧
    (config.queries user?).length = 5 + config.metrics.length ∧
    (∀ other?, summaryKey other? = summaryKey user? → other? = user?) ∧ ∀ q, seriesKey q ≠ summaryKey user? := by
  intro σ told
  refine ⟨?_, length_queries config user?, fun other? hkey => summaryKey_injective hkey,
    fun q => seriesKey_ne_summaryKey q user?⟩
  rcases summary_cases (worksBy_run config source events) tie σ.source now user? with
    ⟨s, hrecalled, hhit⟩ | ⟨hno, hmiss⟩
  · have hfound := recalledSummary?_eq_some_iff.mp hrecalled
    have htold : told = ⟨s, [], σ.dashboard⟩ := hhit
    obtain ⟨s', hs', hbefore⟩ := toldBefore_of_get? hclock hfound
    obtain rfl : s = s' := by simpa using hs'
    rw [htold]
    exact .inl ⟨hfound, rfl, hbefore⟩
  · right
    have hnone : σ.dashboard.memory.get? now.instant (summaryKey user?) = none := by
      cases hvalue : σ.dashboard.memory.get? now.instant (summaryKey user?) with
      | none => rfl
      | some value =>
        obtain ⟨s, rfl, -⟩ := toldBefore_of_get? hclock hvalue
        cases hno.symm.trans (recalledSummary?_eq_some_iff.mpr hvalue)
    have htold : told = ⟨σ.source.summary config now.moment user?, config.queries user?,
      σ.dashboard.rememberSummary tie now.instant user? (σ.source.summary config now.moment user?)⟩ := hmiss
    rw [htold]
    exact ⟨hnone, rfl, rfl⟩

def changedMeanwhile : List DashboardEvent :=
  [atInstant 0 (.summary (some .nil)), atInstant 1 (.change (projectsOnly 4)), atInstant 2 .refresh,
    atInstant 3 (.summary (some .nil)), atInstant 6 (.change (projectsOnly 5))]

theorem summary_boundedStale_changedMeanwhile :
    let told := ((start shortLived (projectsOnly 3)).run changedMeanwhile).dashboard.summary (fun _ => 0)
      (projectsOnly 5) (requestAt 7) (some .nil)
    ClockUpTo changedMeanwhile 7 ∧
      ToldBefore shortLived (projectsOnly 3) changedMeanwhile 7 (some .nil) told.result ∧
      told.result.projects = 4 ∧ told.result.cachedAt = (requestAt 3).moment := by
  intro told
  have hclock : ClockUpTo changedMeanwhile 7 := by decide
  obtain ⟨hit | miss, -⟩ :=
    summary_boundedStale shortLived (projectsOnly 3) changedMeanwhile (fun _ => 0) (requestAt 7) (some .nil) hclock
  · exact ⟨hclock, hit.2.2, rfl, rfl⟩
  · have hheld : ((start shortLived (projectsOnly 3)).run changedMeanwhile).dashboard.memory.get? 7
        (summaryKey (some .nil)) ≠ none := by decide +kernel
    exact absurd miss.1 hheld

end Station

structure SeriesQuery.SameKey (q q' : SeriesQuery) : Prop where
  joined : q.metric ++ "_" ++ q.interval = q'.metric ++ "_" ++ q'.interval
  start : q.start.date = q'.start.date
  stop : q.stop.date = q'.stop.date

theorem SeriesQuery.sameKey_iff {q q' : SeriesQuery} : q.SameKey q' ↔ seriesKey q = seriesKey q' := by
  rw [seriesKey_eq_iff]
  exact ⟨fun h => ⟨h.joined, h.start, h.stop⟩, fun ⟨hjoined, hstart, hstop⟩ => ⟨hjoined, hstart, hstop⟩⟩

namespace Station

variable {config : DashboardConfig} {source : DashboardSource} {events : List DashboardEvent}

/-- The source gave the points to a request before, and at an instant they are still kept. -/
def GivenBefore (config : DashboardConfig) (source : DashboardSource) (events : List DashboardEvent) (now : Nat)
    (q : SeriesQuery) (points : List SeriesPoint) : Prop :=
  ∃ before e after, events = before ++ e :: after ∧ e.op = .series q ∧
    ((start config source).run before).source.series q = .ok points ∧ e.now.instant ≤ now ∧
    now - e.now.instant < config.lasting (config.seriesTtl q.stop e.now.moment)

theorem givenBefore_of_get? {now : Nat} (hclock : ClockUpTo events now) {q : SeriesQuery}
    {points : List SeriesPoint}
    (hfound : ((start config source).run events).dashboard.memory.get? now (seriesKey q) =
      some (.series points)) :
    ∃ q', q.SameKey q' ∧ GivenBefore config source events now q' points := by
  obtain ⟨h, hnoted, hkey, hvalue, hlt⟩ := noted_of_get? hfound
  cases hnoted with
  | summary before e after told? hsplit hbuilds hkept => exact absurd hkey.symm (seriesKey_ne_summaryKey q told?)
  | series before e after q' points' hsplit hop hpoints =>
    obtain rfl : points' = points := by simpa [noteOfSeries] using hvalue
    have hle : e.now.instant ≤ now := hclock.instant_le (by simp [hsplit])
    have hyoung : now < e.now.instant + config.lasting (config.seriesTtl q'.stop e.now.moment) := hlt
    exact ⟨q', SeriesQuery.sameKey_iff.mpr hkey.symm, before, e, after, hsplit, hop, hpoints, hle, by omega⟩

def AnswersQuestion (config : DashboardConfig) (source : DashboardSource) (events : List DashboardEvent)
    (now : RequestTime) (q : SeriesQuery) : Prop :=
  ∀ tie points, let σ := (start config source).run events
    (σ.dashboard.series tie σ.source now q).result = .ok points →
      σ.source.series q = .ok points ∨ GivenBefore config source events now.instant q points

theorem series_answers_sameKey (config : DashboardConfig) (source : DashboardSource) (events : List DashboardEvent)
    (tie : TieBreak Remembered) (now : RequestTime) (q : SeriesQuery) (hclock : ClockUpTo events now.instant) :
    let σ := (start config source).run events
    let told := σ.dashboard.series tie σ.source now q
    (told.asked = [] ∧ told.dashboard = σ.dashboard ∧ ∃ points, told.result = .ok points ∧
        ∃ q', GivenBefore config source events now.instant q' points ∧ q.SameKey q' ∧
          ('_' ∉ q.interval.toList → '_' ∉ q'.interval.toList → q.metric = q'.metric ∧ q.interval = q'.interval)) ∨
      told.asked = [q] ∧ told.result = σ.source.series q ∧
        ∀ cause, σ.source.series q = .error cause → told.dashboard = σ.dashboard := by
  intro σ told
  rcases σ.dashboard.series_cases tie σ.source now q with
    ⟨points, hfound, hhit⟩ | ⟨points, hok, hmiss⟩ | ⟨cause, herror, hfail⟩
  · left
    have htold : told = ⟨.ok points, [], σ.dashboard⟩ := hhit
    obtain ⟨q', hsame, hgiven⟩ := givenBefore_of_get? hclock (recalledSeries?_eq_some_iff.mp hfound)
    rw [htold]
    exact ⟨rfl, rfl, points, rfl, q', hgiven, hsame, fun hi hi' => (joined_inj hi hi').mp hsame.joined⟩
  · right
    have htold : told = ⟨.ok points, [q], σ.dashboard.rememberSeries tie now q points⟩ := hmiss
    rw [htold]
    refine ⟨rfl, hok.symm, ?_⟩
    intro cause herror
    rw [hok] at herror
    cases herror
  · right
    have htold : told = ⟨.error cause, [q], σ.dashboard⟩ := hfail
    rw [htold]
    exact ⟨rfl, herror.symm, fun _ _ => rfl⟩

def monthOf (metric interval : String) : SeriesQuery :=
  ⟨metric, ⟨⟨19723⟩, .midnight⟩, ⟨⟨19753⟩, .midnight⟩, interval⟩

def restOfMonth (metric interval : String) : SeriesQuery :=
  { monthOf metric interval with start := ⟨⟨19723⟩, ⟨21600, 0⟩⟩ }

def onePoint : List SeriesPoint := [⟨⟨⟨19723⟩, .midnight⟩, 1.5, none⟩]

def pointsOf (metric : String) : DashboardSource :=
  { projectsOnly 0 with series q := .ok (if q.metric = metric then onePoint else []) }

def monthAsked : List DashboardEvent :=
  [atInstant 0 (.series (monthOf "co2" "daily_mean")), atInstant 1 (.change (pointsOf ""))]

theorem series_answers_sameKey_monthAsked :
    ClockUpTo monthAsked 1 ∧
      ∃ q', GivenBefore shortLived (pointsOf "co2") monthAsked 1 q' onePoint ∧
        (restOfMonth "co2" "daily_mean").SameKey q' := by
  have hclock : ClockUpTo monthAsked 1 := by decide
  refine ⟨hclock, ?_⟩
  rcases series_answers_sameKey shortLived (pointsOf "co2") monthAsked (fun _ => 0) (requestAt 1)
    (restOfMonth "co2" "daily_mean") hclock with ⟨-, -, points, hpoints, q', hgiven, hsame, -⟩ | ⟨hasked, -⟩
  · obtain rfl : onePoint = points := Except.ok.inj hpoints
    exact ⟨q', hgiven, hsame⟩
  · cases hasked

theorem not_answersQuestion_monthAsked {q : SeriesQuery} (hmetric : q.metric ≠ "")
    (hother : q ≠ monthOf "co2" "daily_mean")
    (htold : (((start shortLived (pointsOf "co2")).run monthAsked).dashboard.series (fun _ => 0) (pointsOf "")
      (requestAt 1) q).result = .ok onePoint) :
    ¬ AnswersQuestion shortLived (pointsOf "co2") monthAsked (requestAt 1) q := by
  intro hanswers
  rcases hanswers (fun _ => 0) onePoint htold with hnow | ⟨before, e, after, hsplit, hop, -⟩
  · have hnone : (pointsOf "").series q = .ok [] := by simp [pointsOf, hmetric]
    cases hnone.symm.trans hnow
  · have hmem : e ∈ monthAsked := by simp [hsplit]
    rcases List.mem_cons.mp hmem with rfl | hrest
    · exact hother (DashboardOp.series.inj hop).symm
    · obtain rfl := List.mem_singleton.mp hrest
      cases hop

theorem monthAsked_answers_others :
    ¬ AnswersQuestion shortLived (pointsOf "co2") monthAsked (requestAt 1) (restOfMonth "co2" "daily_mean") ∧
      ¬ AnswersQuestion shortLived (pointsOf "co2") monthAsked (requestAt 1) (monthOf "co2_daily" "mean") :=
  ⟨not_answersQuestion_monthAsked (by decide) (by decide) rfl,
    not_answersQuestion_monthAsked (by decide) (by decide) rfl⟩

end Station

end PortfolioReports
