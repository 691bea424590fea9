import PortfolioReports.Dashboard.Config
import PortfolioReports.Dashboard.Summary
import PortfolioReports.Fault

namespace PortfolioReports

open Calendar

inductive Outcome (α : Type) where
  | value (a : α)
  | failed (cause : Fault)
  /-- The query breaks off without an answer. -/
  | crashed

namespace Outcome

variable {α β : Type}

def map (f : α → β) : Outcome α → Outcome β
  | value a => value (f a)
  | failed cause => failed cause
  | crashed => crashed

end Outcome

structure SeriesQuery where
  metric : String
  start : Moment
  stop : Moment
  interval : String
deriving DecidableEq

structure DashboardSource where
  projects : Option Uuid → Outcome Nat
  credits : Option Uuid → Outcome Float
  revenue : Option Uuid → Outcome Float
  areas : Option Uuid → Outcome Nat
  activity : Option Uuid → Nat → Outcome (List Activity)
  metric : String → String → Outcome MetricReading
  series : SeriesQuery → Except Fault (List SeriesPoint)

inductive SummaryQuery where
  | projects (user? : Option Uuid)
  | credits (user? : Option Uuid)
  | revenue (user? : Option Uuid)
  | areas (user? : Option Uuid)
  | activity (user? : Option Uuid) (limit : Nat)
  | metric (name period : String)
deriving DecidableEq

inductive SummaryPart where
  | projects (n : Nat)
  | credits (x : Float)
  | revenue (x : Float)
  | areas (n : Nat)
  | activity (items : List Activity)
  | metric (name : String) (summary : MetricSummary)

def askedFor (what : String) : Option Uuid → String
  | some u => what ++ "@" ++ u.toText
  | none => what

def offsetText (m : Moment) : String := momentText "T" m ++ fractionText m.clock ++ "+00:00"

def SeriesQuery.toText (q : SeriesQuery) : String :=
  s!"series:{q.metric} {offsetText q.start}..{offsetText q.stop} {q.interval}"

namespace SummaryQuery

def toText : SummaryQuery → String
  | projects u => askedFor "project_count" u
  | credits u => askedFor "total_credits" u
  | revenue u => askedFor "total_revenue" u
  | areas u => askedFor "active_monitoring_areas" u
  | activity u limit => askedFor "recent_activity" u ++ s!" limit={limit}"
  | metric name period => s!"metric:{name} {period}"

def ask (source : DashboardSource) : SummaryQuery → Outcome SummaryPart
  | projects u => (source.projects u).map .projects
  | credits u => (source.credits u).map .credits
  | revenue u => (source.revenue u).map .revenue
  | areas u => (source.areas u).map .areas
  | activity u limit => (source.activity u limit).map .activity
  | metric name period => (source.metric name period).map fun r => .metric name (.of r)

end SummaryQuery

namespace DashboardSummary

def add (s : DashboardSummary) : SummaryPart → DashboardSummary
  | .projects n => { s with projects := n }
  | .credits x => { s with credits := x }
  | .revenue x => { s with revenue := x }
  | .areas n => { s with areas := n }
  | .activity items => { s with activity := items }
  | .metric name m => { s with metrics := insertSorted name m s.metrics }

def absorb (s : DashboardSummary) : Outcome SummaryPart → DashboardSummary
  | .value p => s.add p
  | .failed _ => s
  | .crashed => s

def ofOutcomes (now : Moment) (outcomes : List (Outcome SummaryPart)) : DashboardSummary :=
  outcomes.foldl absorb (empty now)

end DashboardSummary

def DashboardConfig.queries (c : DashboardConfig) (user? : Option Uuid) : List SummaryQuery :=
  [.projects user?, .credits user?, .revenue user?, .areas user?, .activity user? c.activityLimit] ++
    c.metrics.map fun m => .metric m c.metricPeriod

def DashboardSource.summary (source : DashboardSource) (c : DashboardConfig) (now : Moment) (user? : Option Uuid) :
    DashboardSummary :=
  .ofOutcomes now ((c.queries user?).map fun q => q.ask source)

end PortfolioReports
