import PortfolioReports.Fault
import PortfolioReports.Statistics.Rank

namespace PortfolioReports

open Scalar

variable {α : Type} [Scalar α]

inductive Priority where
  | high
  | medium
  | low
deriving DecidableEq, Repr

inductive Impact where
  | high
  | medium
deriving DecidableEq, Repr

instance : Vocabulary Priority where
  title := "Priority"
  all := [.high, .medium, .low]
  name
    | .high => "high"
    | .medium => "medium"
    | .low => "low"
  find?_name a := by cases a <;> decide

instance : Vocabulary Impact where
  title := "Impact"
  all := [.high, .medium]
  name
    | .high => "high"
    | .medium => "medium"
  find?_name a := by cases a <;> decide

structure MetricComparison (α : Type) where
  metric : String
  value : α
  spread : Spread α
  difference : α
  differencePercent : α
  level : PerformanceLevel
  unit : String

structure Gap (α : Type) where
  metric : String
  current : α
  target : α
  gap : α
  gapPercent : α
  priority : Priority
  impact : Impact
  recommendation : String

structure Comparison (α : Type) where
  project : Uuid
  benchmark : Uuid
  metrics : List (String × α)
  comparisons : List (MetricComparison α)
  ranks : List (String × α)
  gaps : List (Gap α)
  score : α
  label : String
  summary : String

def percentOf (part base : α) : α := if same base zero then zero else part / base * whole 100

namespace MetricComparison

def of (m : BenchmarkMetric α) (value : α) : MetricComparison α :=
  let difference := value - m.spread.p50
  ⟨m.metric, value, m.spread, difference, percentOf difference m.spread.p50, m.spread.level value, m.unit⟩

end MetricComparison

namespace Gap

def highImpactMetrics : List String :=
  ["carbon_sequestration_rate", "total_credits_issued", "revenue_per_hectare",
   "verification_success_rate"]

def adviceByMetric : List (String × String) :=
  [("carbon_sequestration_rate",
    "Consider implementing enhanced forest management practices, optimizing species composition, " ++
    "or improving soil management techniques."),
   ("total_credits_issued",
    "Focus on increasing monitoring coverage and documentation quality to maximize credit issuance " ++
    "potential."),
   ("revenue_per_hectare",
    "Explore premium certification programs, direct buyer relationships, or bundled credit " ++
    "offerings to improve revenue."),
   ("verification_success_rate",
    "Review documentation processes, ensure alignment with methodology requirements, and consider " ++
    "third-party pre-verification."),
   ("monitoring_coverage",
    "Deploy additional IoT sensors, increase satellite imagery frequency, or implement drone-based " ++
    "monitoring."),
   ("biomass_growth_rate",
    "Evaluate current species selection, soil amendments, and silvicultural practices for " ++
    "optimization opportunities.")]

def recommend (metric : String) (gapPercent : α) : String :=
  match adviceByMetric.lookup metric with
  | some advice => advice
  | none =>
    s!"Review current practices for {metric} and consult with technical advisors " ++
    s!"for improvement strategies. Gap: {fixed 1 gapPercent}%"

def priorityOf (gapPercent : α) : Priority :=
  if lt (whole 30) gapPercent then .high
  else if lt (whole 15) gapPercent then .medium
  else .low

def of (m : BenchmarkMetric α) (value : α) : Gap α :=
  let gap := m.spread.p50 - value
  let percent := percentOf gap m.spread.p50
  ⟨m.metric, value, m.spread.p50, gap, percent, priorityOf percent,
    if highImpactMetrics.contains m.metric then .high else .medium, recommend m.metric percent⟩

end Gap

namespace Comparison

def labelOf (score : α) : String :=
  if le (whole 90) score then "Top Performer"
  else if le (whole 75) score then "Above Average"
  else if le (whole 50) score then "Average"
  else if le (whole 25) score then "Below Average"
  else "Needs Improvement"

def counted (n : Nat) (rest : String) : String := if n = 0 then "" else toString n ++ rest

def summarize (comparisons : List (MetricComparison α)) (gaps : List (Gap α)) (score : α) : String :=
  let count (l : PerformanceLevel) := comparisons.countP fun c => c.level = l
  let urgent := gaps.countP fun g => g.priority = .high
  s!"Overall performance score: {fixed 1 score}%. " ++
    counted (count .excellent) " metrics in top quartile. " ++
    counted (count .above) " metrics above median. " ++
    counted (count .below) " metrics require attention. " ++
    counted urgent " high-priority improvement areas identified."

def scoreOf (ranks : List (String × α)) : α :=
  if ranks.isEmpty then zero else sum (ranks.map Prod.snd) / whole ranks.length

def shared (metrics : List (String × α)) (b : List (BenchmarkMetric α)) : List (BenchmarkMetric α × α) :=
  b.filterMap fun m => (metrics.lookup m.metric).map fun v => (m, v)

def of (project benchmark : Uuid) (metrics : List (String × α)) (b : List (BenchmarkMetric α)) :
    Comparison α :=
  let both := shared metrics b
  let comparisons := both.map fun p => MetricComparison.of p.1 p.2
  let ranks := sortEntries (both.map fun p => (p.1.metric, p.1.spread.percentileRank p.2))
  let gaps := (both.filter fun p => p.1.spread.level p.2 = .below).map fun p => Gap.of p.1 p.2
  let score := scoreOf ranks
  ⟨project, benchmark, metrics, comparisons, ranks, gaps, score, labelOf score,
    summarize comparisons gaps score⟩

def withBenchmark (project : Uuid) (metrics : List (String × Float)) (b : Benchmark) : Comparison Float :=
  of project b.id metrics b.metrics

end Comparison

def Comparison.answer (project : Uuid) (q : BenchmarkQuery)
    (metrics : Except Fault (List (String × Float))) (found : Except Fault (Option Benchmark)) :
    Except Fault (Comparison Float) := do
  let metrics ← metrics
  match ← found with
  | some b => pure (Comparison.withBenchmark project metrics b)
  | none => throw (.benchmarkNotFound q.display)

def PeerProject.percentile (project : Uuid) (metric : String) (peers : List (PeerProject α)) :
    Except Fault α :=
  let held := peers.filterMap fun p => (p.metrics.lookup metric).map fun v => (p.id, v)
  match held.reverse.find? fun h => h.1 = project with
  | some h => .ok (peerPercentile h.2 (held.map Prod.snd))
  | none => .error (.notFound (.peerMetric metric project))

section Writing

open Json

namespace Comparison

def metricJson (c : MetricComparison Float) : Json := .object
  [("metric", .text c.metric), ("project_value", ofFloat c.value),
   ("benchmark_median", ofFloat c.spread.p50), ("benchmark_p25", ofFloat c.spread.p25),
   ("benchmark_p75", ofFloat c.spread.p75), ("difference", ofFloat c.difference),
   ("difference_percent", ofFloat c.differencePercent), ("performance_level", ofWord c.level),
   ("unit", .text c.unit)]

def gapJson (g : Gap Float) : Json := .object
  [("metric", .text g.metric), ("current_value", ofFloat g.current), ("target_value", ofFloat g.target),
   ("gap", ofFloat g.gap), ("gap_percent", ofFloat g.gapPercent), ("priority", ofWord g.priority),
   ("impact", ofWord g.impact), ("recommendation", .text g.recommendation)]

def floatFields (l : List (String × Float)) : Json := .object (l.map fun e => (e.1, ofFloat e.2))

def toJson (c : Comparison Float) : Json := .object
  [("project_id", ofUuid c.project), ("benchmark_id", ofUuid c.benchmark),
   ("project_metrics", floatFields c.metrics), ("comparisons", .list (c.comparisons.map metricJson)),
   ("percentile_ranks", floatFields c.ranks), ("gap_analysis", .list (c.gaps.map gapJson)),
   ("overall_score", ofFloat c.score), ("performance_rank", .text c.label), ("summary", .text c.summary)]

end Comparison

end Writing

end PortfolioReports
