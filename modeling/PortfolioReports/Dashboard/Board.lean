import PortfolioReports.Dashboard.Memory
import PortfolioReports.Dashboard.Source

/-!
Each request is a look into the memory, then queries, then a note in the memory; nothing holds the memory in between.
-/

namespace PortfolioReports

open Calendar

inductive Remembered where
  | summary (s : DashboardSummary)
  | series (points : List SeriesPoint)

structure Dashboard where
  config : DashboardConfig
  memory : Memory Remembered

/-- When a request is made: by the clock that spans are counted on, and by the calendar. -/
structure RequestTime where
  instant : Nat
  moment : Moment

structure Answered (α Query : Type) where
  result : α
  asked : List Query
  dashboard : Dashboard

namespace Dashboard

def start (config : DashboardConfig) : Dashboard := ⟨config, .empty config.cache⟩

def globalKey : String := "dashboard_summary"

def summaryKey : Option Uuid → String
  | some u => globalKey ++ "_" ++ u.toText
  | none => globalKey

def compactDate (d : Date) : String :=
  let c := d.civil
  yearText c.year ++ Text.zeroPadded 2 c.month ++ Text.zeroPadded 2 c.day

def seriesKey (q : SeriesQuery) : String :=
  s!"timeseries_{q.metric}_{q.interval}_{compactDate q.start.date}_{compactDate q.stop.date}"

def recalledSummary? (d : Dashboard) (now : Nat) (user? : Option Uuid) : Option DashboardSummary :=
  match d.memory.get? now (summaryKey user?) with
  | some (.summary s) => some s
  | _ => none

def recalledSeries? (d : Dashboard) (now : Nat) (q : SeriesQuery) : Option (List SeriesPoint) :=
  match d.memory.get? now (seriesKey q) with
  | some (.series points) => some points
  | _ => none

def rememberSummary (d : Dashboard) (tie : TieBreak Remembered) (now : Nat) (user? : Option Uuid)
    (s : DashboardSummary) : Dashboard :=
  { d with memory := d.memory.set tie now (summaryKey user?) (.summary s) d.config.summaryTtl }

def rememberSeries (d : Dashboard) (tie : TieBreak Remembered) (now : RequestTime) (q : SeriesQuery)
    (points : List SeriesPoint) : Dashboard :=
  let ttl := d.config.seriesTtl q.stop now.moment
  { d with memory := d.memory.set tie now.instant (seriesKey q) (.series points) ttl }

def summary (d : Dashboard) (tie : TieBreak Remembered) (source : DashboardSource) (now : RequestTime)
    (user? : Option Uuid) : Answered DashboardSummary SummaryQuery :=
  match d.recalledSummary? now.instant user? with
  | some s => ⟨s, [], d⟩
  | none =>
    let s := source.summary d.config now.moment user?
    ⟨s, d.config.queries user?, d.rememberSummary tie now.instant user? s⟩

def series (d : Dashboard) (tie : TieBreak Remembered) (source : DashboardSource) (now : RequestTime)
    (q : SeriesQuery) : Answered (Except Fault (List SeriesPoint)) SeriesQuery :=
  match d.recalledSeries? now.instant q with
  | some points => ⟨.ok points, [], d⟩
  | none =>
    match source.series q with
    | .ok points => ⟨.ok points, [q], d.rememberSeries tie now q points⟩
    | .error cause => ⟨.error cause, [q], d⟩

def invalidate (d : Dashboard) (user : Uuid) : Dashboard :=
  { d with memory := d.memory.erase (summaryKey (some user)) }

def forget (d : Dashboard) : Dashboard := { d with memory := d.memory.clear }

def refresh (d : Dashboard) (tie : TieBreak Remembered) (source : DashboardSource) (now : RequestTime) :
    Answered DashboardSummary SummaryQuery :=
  d.forget.summary tie source now none

def sweepAll (d : Dashboard) (sweeps : Sweeps) (start stop : Nat) : Dashboard :=
  { d with memory := d.memory.sweepAll sweeps start stop }

end Dashboard

end PortfolioReports
