import PortfolioReports.Proofs.Dashboard.Keys
import PortfolioReports.Proofs.Memory.Room

namespace PortfolioReports

open Memory

def DashboardConfig.lasting (c : DashboardConfig) (ttl : Span) : Span :=
  if ttl = 0 then c.cache.defaultTtl else ttl

namespace Dashboard

variable {d : Dashboard} {config : DashboardConfig} {tie : TieBreak Remembered} {source : DashboardSource}
  {h : Held Remembered}

structure WorksBy (d : Dashboard) (config : DashboardConfig) : Prop where
  config_eq : d.config = config
  memory_config : d.memory.config = config.cache

theorem worksBy_start (config : DashboardConfig) : (start config).WorksBy config := ⟨rfl, rfl⟩

namespace WorksBy

variable (hd : d.WorksBy config)

include hd

theorem ttlOf (ttl : Span) : d.memory.ttlOf ttl = config.lasting ttl := by
  rw [Memory.ttlOf, hd.memory_config, DashboardConfig.lasting]

theorem rememberSummary (tie : TieBreak Remembered) (now : Nat) (user? : Option Uuid) (s : DashboardSummary) :
    (d.rememberSummary tie now user? s).WorksBy config := ⟨hd.config_eq, hd.memory_config⟩

theorem rememberSeries (tie : TieBreak Remembered) (now : RequestTime) (q : SeriesQuery)
    (points : List SeriesPoint) : (d.rememberSeries tie now q points).WorksBy config :=
  ⟨hd.config_eq, hd.memory_config⟩

theorem invalidate (user : Uuid) : (d.invalidate user).WorksBy config := ⟨hd.config_eq, hd.memory_config⟩

theorem forget : d.forget.WorksBy config := ⟨hd.config_eq, hd.memory_config⟩

theorem sweepAll (sweeps : Sweeps) (start stop : Nat) : (d.sweepAll sweeps start stop).WorksBy config :=
  ⟨hd.config_eq, (d.memory.sweepAll_spec sweeps start stop).1.trans hd.memory_config⟩

end WorksBy

theorem recalledSummary?_eq_some_iff {now : Nat} {user? : Option Uuid} {s : DashboardSummary} :
    d.recalledSummary? now user? = some s ↔ d.memory.get? now (summaryKey user?) = some (.summary s) := by
  unfold recalledSummary?
  split
  · rename_i s' hs'
    rw [hs', Option.some.injEq, Option.some.injEq, Remembered.summary.injEq]
  · rename_i hother
    exact ⟨nofun, fun hs => absurd hs (hother s)⟩

theorem recalledSeries?_eq_some_iff {now : Nat} {q : SeriesQuery} {points : List SeriesPoint} :
    d.recalledSeries? now q = some points ↔ d.memory.get? now (seriesKey q) = some (.series points) := by
  unfold recalledSeries?
  split
  · rename_i points' hpoints'
    rw [hpoints', Option.some.injEq, Option.some.injEq, Remembered.series.injEq]
  · rename_i hother
    exact ⟨nofun, fun hpoints => absurd hpoints (hother points)⟩

theorem summary_cases (hd : d.WorksBy config) (tie : TieBreak Remembered) (source : DashboardSource)
    (now : RequestTime) (user? : Option Uuid) :
    (∃ s, d.recalledSummary? now.instant user? = some s ∧ d.summary tie source now user? = ⟨s, [], d⟩) ∨
      d.recalledSummary? now.instant user? = none ∧
        d.summary tie source now user? = ⟨source.summary config now.moment user?, config.queries user?,
          d.rememberSummary tie now.instant user? (source.summary config now.moment user?)⟩ := by
  obtain ⟨rfl, -⟩ := hd
  cases hs : d.recalledSummary? now.instant user? with
  | some s => exact .inl ⟨s, rfl, by simp only [summary, hs]⟩
  | none => exact .inr ⟨rfl, by simp only [summary, hs]⟩

theorem series_cases (d : Dashboard) (tie : TieBreak Remembered) (source : DashboardSource) (now : RequestTime)
    (q : SeriesQuery) :
    (∃ points, d.recalledSeries? now.instant q = some points ∧
        d.series tie source now q = ⟨.ok points, [], d⟩) ∨
      (∃ points, source.series q = .ok points ∧
        d.series tie source now q = ⟨.ok points, [q], d.rememberSeries tie now q points⟩) ∨
      ∃ cause, source.series q = .error cause ∧ d.series tie source now q = ⟨.error cause, [q], d⟩ := by
  cases hs : d.recalledSeries? now.instant q with
  | some points => exact .inl ⟨points, rfl, by simp only [series, hs]⟩
  | none =>
    right
    cases hq : source.series q with
    | ok points => exact .inl ⟨points, rfl, by simp only [series, hs, hq]⟩
    | error cause => exact .inr ⟨cause, rfl, by simp only [series, hs, hq]⟩

theorem refresh_eq (hd : d.WorksBy config) (tie : TieBreak Remembered) (source : DashboardSource)
    (now : RequestTime) :
    d.refresh tie source now = ⟨source.summary config now.moment none, config.queries none,
      d.forget.rememberSummary tie now.instant none (source.summary config now.moment none)⟩ := by
  rcases summary_cases hd.forget tie source now none with ⟨s, hs, -⟩ | ⟨-, hmiss⟩
  · cases hs
  · exact hmiss

def noteOfSummary (config : DashboardConfig) (now : Nat) (user? : Option Uuid) (s : DashboardSummary) :
    Held Remembered :=
  ⟨summaryKey user?, .summary s, now + config.lasting config.summaryTtl⟩

def noteOfSeries (config : DashboardConfig) (now : RequestTime) (q : SeriesQuery) (points : List SeriesPoint) :
    Held Remembered :=
  ⟨seriesKey q, .series points, now.instant + config.lasting (config.seriesTtl q.stop now.moment)⟩

theorem mem_rememberSummary (hd : d.WorksBy config) {now : Nat} {user? : Option Uuid} {s : DashboardSummary}
    (hmem : h ∈ (d.rememberSummary tie now user? s).memory.held) :
    h ∈ d.memory.held ∧ h.key ≠ summaryKey user? ∨ h = noteOfSummary config now user? s := by
  rcases mem_set.mp hmem with hnew | ⟨hroom, hkey⟩
  · rw [hd.ttlOf, hd.config_eq] at hnew
    exact .inr hnew
  · exact .inl ⟨(d.memory.makeRoom_sublist tie now _).subset hroom, hkey⟩

theorem mem_rememberSeries (hd : d.WorksBy config) {now : RequestTime} {q : SeriesQuery}
    {points : List SeriesPoint} (hmem : h ∈ (d.rememberSeries tie now q points).memory.held) :
    h ∈ d.memory.held ∨ h = noteOfSeries config now q points := by
  rcases mem_set.mp hmem with hnew | ⟨hroom, -⟩
  · rw [hd.ttlOf, hd.config_eq] at hnew
    exact .inr hnew
  · exact .inl ((d.memory.makeRoom_sublist tie now.instant _).subset hroom)

theorem mem_summary (hd : d.WorksBy config) {now : RequestTime} {user? : Option Uuid}
    (hmem : h ∈ (d.summary tie source now user?).dashboard.memory.held) :
    h ∈ d.memory.held ∨ h = noteOfSummary config now.instant user? (source.summary config now.moment user?) := by
  rcases summary_cases hd tie source now user? with ⟨s, -, hhit⟩ | ⟨-, hmiss⟩
  · rw [hhit] at hmem
    exact .inl hmem
  · rw [hmiss] at hmem
    exact (mem_rememberSummary hd hmem).imp_left And.left

theorem mem_refresh (hd : d.WorksBy config) {now : RequestTime}
    (hmem : h ∈ (d.refresh tie source now).dashboard.memory.held) :
    h = noteOfSummary config now.instant none (source.summary config now.moment none) := by
  rw [refresh_eq hd] at hmem
  rcases mem_rememberSummary hd.forget hmem with ⟨hold, -⟩ | hnew
  · cases hold
  · exact hnew

theorem mem_series (hd : d.WorksBy config) {now : RequestTime} {q : SeriesQuery}
    (hmem : h ∈ (d.series tie source now q).dashboard.memory.held) :
    h ∈ d.memory.held ∨ ∃ points, source.series q = .ok points ∧ h = noteOfSeries config now q points := by
  rcases d.series_cases tie source now q with ⟨points, -, hhit⟩ | ⟨points, hok, hmiss⟩ | ⟨cause, -, hfail⟩
  · rw [hhit] at hmem
    exact .inl hmem
  · rw [hmiss] at hmem
    exact (mem_rememberSeries hd hmem).imp_right fun hnew => ⟨points, hok, hnew⟩
  · rw [hfail] at hmem
    exact .inl hmem

theorem mem_invalidate {user : Uuid} :
    h ∈ (d.invalidate user).memory.held ↔ h ∈ d.memory.held ∧ h.key ≠ summaryKey (some user) := mem_without

theorem mem_of_mem_sweepAll {sweeps : Sweeps} {start stop : Nat}
    (hmem : h ∈ (d.sweepAll sweeps start stop).memory.held) : h ∈ d.memory.held :=
  (d.memory.sweepAll_spec sweeps start stop).2.1.subset hmem

end Dashboard

def projectsOnly (n : Nat) : DashboardSource where
  projects _ := .value n
  credits _ := .crashed
  revenue _ := .crashed
  areas _ := .crashed
  activity _ _ := .crashed
  metric _ _ := .crashed
  series _ := .ok []

def shortLived : DashboardConfig := ⟨⟨10, 7, 2⟩, 5, 3, 0, 10, ["revenue"], "30d"⟩

def requestAt (instant : Nat) : RequestTime := ⟨instant, ⟨⟨20000 + instant⟩, .midnight⟩⟩

end PortfolioReports
