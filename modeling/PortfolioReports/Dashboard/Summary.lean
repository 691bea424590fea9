import PortfolioReports.Json.Typed

namespace PortfolioReports

open Calendar Json

inductive MetricTrend where
  | up
  | down
  | stable
deriving DecidableEq, Repr

instance : Vocabulary MetricTrend where
  title := "MetricTrend"
  all := [.up, .down, .stable]
  name
    | .up => "up"
    | .down => "down"
    | .stable => "stable"
  find?_name a := by cases a <;> decide

structure MetricReading where
  current : Float
  previous : Float
  period : String

structure MetricSummary where
  value : Float
  change : Float
  changePercent : Float
  period : String
  trend? : Option MetricTrend

namespace MetricSummary

def trendOf (changePercent : Float) : MetricTrend :=
  if changePercent > 5 then .up else if changePercent < -5 then .down else .stable

def of (r : MetricReading) : MetricSummary :=
  if r.previous > 0 then
    let change := r.current - r.previous
    let percent := change / r.previous * 100
    ⟨r.current, change, percent, r.period, some (trendOf percent)⟩
  else ⟨r.current, 0, 0, r.period, none⟩

def toJson (m : MetricSummary) : Json := .object
  [("value", ofFloat m.value), ("change", ofFloat m.change), ("change_percent", ofFloat m.changePercent),
   ("period", .text m.period), ("trend", ofOption ofWord m.trend?)]

end MetricSummary

structure SeriesPoint where
  time : Moment
  value : Float
  label? : Option String

namespace SeriesPoint

def ofJson? (j : Json) : Option SeriesPoint := do
  let r ← j.record? ["time", "value", "label"]
  let time ← r.field "time" asMoment?
  let value ← r.field "value" asFloat?
  let label? ← r.optionalOr "label" asText?
  pure ⟨time, value, label?⟩

def toJson (p : SeriesPoint) : Json := .object <|
  [("time", ofMoment p.time), ("value", ofFloat p.value)] ++ present "label" .text p.label?

end SeriesPoint

structure Activity where
  id : Uuid
  kind : String
  description : String
  time : Moment
  user? : Option Uuid
  entity? : Option Uuid
  entityKind? : Option String

namespace Activity

def ofJson? (j : Json) : Option Activity := do
  let r ← j.record?
    ["id", "type", "description", "timestamp", "user_id", "entity_id", "entity_type"]
  let id ← r.field "id" asUuid?
  let kind ← r.field "type" asText?
  let description ← r.field "description" asText?
  let time ← r.field "timestamp" asMoment?
  let user? ← r.optionalOr "user_id" asUuid?
  let entity? ← r.optionalOr "entity_id" asUuid?
  let entityKind? ← r.optionalOr "entity_type" asText?
  pure ⟨id, kind, description, time, user?, entity?, entityKind?⟩

def toJson (a : Activity) : Json := .object
  [("id", ofUuid a.id), ("type", .text a.kind), ("description", .text a.description),
   ("timestamp", ofMoment a.time), ("user_id", ofOption ofUuid a.user?),
   ("entity_id", ofOption ofUuid a.entity?), ("entity_type", ofOption .text a.entityKind?)]

end Activity

structure DashboardSummary where
  projects : Nat
  credits : Float
  revenue : Float
  areas : Nat
  activity : List Activity
  metrics : List (String × MetricSummary)
  /-- When its queries were put. -/
  cachedAt : Moment

namespace DashboardSummary

def empty (now : Moment) : DashboardSummary := ⟨0, 0, 0, 0, [], [], now⟩

def toJson (s : DashboardSummary) : Json := .object
  [("total_projects", ofNat s.projects), ("total_credits", ofFloat s.credits),
   ("total_revenue", ofFloat s.revenue), ("active_monitoring_areas", ofNat s.areas),
   ("recent_activity", .list (s.activity.map Activity.toJson)),
   ("performance_metrics", .object (s.metrics.map fun m => (m.1, m.2.toJson))),
   ("time_series_data", .object []), ("cached_at", ofMoment s.cachedAt)]

end DashboardSummary

end PortfolioReports
