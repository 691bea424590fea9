import PortfolioReports.Query.Catalog
import PortfolioReports.Query.Statement
import PortfolioReports.Records.Execution
import PortfolioReports.Records.Filter
import PortfolioReports.Records.Schedule
import PortfolioReports.Records.Widget
import PortfolioReports.Statistics.Comparison
import PortfolioReports.Statistics.Trend
import PortfolioReports.Store.Basic

namespace PortfolioReports.CommandLine

open Numeric Text Calendar

def signed (places : Nat) (x : Float) : String :=
  let s := fixed places x
  if x.isNaN || s.startsWith "-" then s else "+" ++ s

def capital {α : Type} [Vocabulary α] (a : α) : String := (Vocabulary.name a).capitalize

def statementLines (s : Statement) : List String :=
  s.sql :: s.args.mapIdx fun i a => s!"  arg {i + 1}: {a.toJson.print}"

def trendLines (t : Trend Float) : List String :=
  [s!"Trend: {capital t.direction}",
   s!"  Slope:     {fixed 4 t.slope}",
   s!"  Current:   {fixed 2 t.current}",
   s!"  Change:    {signed 1 t.changeRate}%",
   s!"  Projected: {fixed 2 t.projectedNext}",
   s!"  Points:    {t.points}"]

def abilities (f : CatalogField) : List String :=
  (if f.aggregatable then ["agg"] else []) ++ (if f.filterable then ["filter"] else []) ++
    if f.groupable then ["group"] else []

def fieldLine (f : CatalogField) : String :=
  "  " ++ padRight 24 f.name ' ' ++ " " ++ f.type.label ++ " [" ++ ",".intercalate (abilities f) ++ "]"

def datasetLines (d : Dataset) : List String :=
  [s!"{d.name} - {d.displayName}"] ++ d.fields.map fieldLine ++
    if d.joinWith.isEmpty then [] else ["  joins: " ++ ", ".intercalate d.joinWith]

def metricLine (c : MetricComparison Float) : String :=
  "  " ++ padRight 32 c.metric ' ' ++ " " ++ padLeft 12 (fixed 2 c.value) ' ' ++ " " ++ c.unit ++
    s!" (median {fixed 2 c.spread.p50}, {signed 1 c.differencePercent}%) {capital c.level}"

def gapLine (g : Gap Float) : String := s!"  Gap {capital g.priority}: {g.metric} {g.recommendation}"

def comparisonLines (c : Comparison Float) : List String :=
  [s!"Project {c.project.toText} vs benchmark"] ++ c.comparisons.map metricLine ++
    [s!"  Overall: {fixed 1 c.score} ({c.label})"] ++ c.gaps.map gapLine ++ [c.summary]

def reportLine (r : Report) : String :=
  s!"{r.id.toText} {r.name} [{Vocabulary.name r.category}/{Vocabulary.name r.visibility}] v{r.version.toInt}"

def pageLines (p : Page Report) : List String :=
  p.items.map reportLine ++ ["", s!"Page {p.page.toNat}/{p.totalPages.toNat} ({p.total} reports)"]

def templateLine (r : Report) : String := s!"{r.id.toText} {r.name} [{Vocabulary.name r.category}]"

def countText (n? : Option Int64) : String := toString (n?.getD 0).toInt

def runLine (e : Execution) : String :=
  s!"Execution {e.id.toText} {Vocabulary.name e.status}: {countText e.recordCount?} records, " ++
    s!"{countText e.fileSize?} bytes (" ++ e.fileKey?.getD "-" ++ ")"

def executionLine (e : Execution) : String :=
  s!"{e.id.toText} " ++ padRight 10 (Vocabulary.name e.status) ' ' ++ " " ++
    padRight 5 (Vocabulary.name e.format) ' ' ++ s!" {countText e.recordCount?} records  " ++
    momentText " " e.triggeredAt ++ (e.error?.map fun s => s!"  ({s})").getD ""

def scheduleLine (s : Schedule) : String :=
  let state := if s.isActive then "active" else "paused"
  s!"{s.id.toText} {s.name} [{state}] {s.cron} {s.timezone} -> {Vocabulary.name s.format} " ++
    Vocabulary.name s.delivery

def benchmarkLine (b : Benchmark) : String :=
  s!"{b.id.toText} {b.name} [{b.category} " ++ b.methodology?.getD "*" ++ " " ++ b.region?.getD "*" ++
    s!" {b.year.toInt}] {b.metrics.length} metrics" ++ if b.isActive then "" else " (inactive)"

def widgetLine (w : Widget) : String :=
  padLeft 3 (toString w.position.toInt) ' ' ++
    s!" {w.id.toText} {w.title} [{Vocabulary.name w.kind} {Vocabulary.name w.size}] {w.area}"

def settingLine (setting : String × String) : String := setting.1 ++ " = " ++ setting.2

def censusLines (c : Census) : List String :=
  ["Analytics Store Status",
   s!"  Reports:    {c.reports} ({c.templates} templates)",
   s!"  Schedules:  {c.activeSchedules} active",
   s!"  Executions: {c.executions} ({c.failedExecutions} failed)",
   s!"  Benchmarks: {c.activeBenchmarks} active",
   s!"  Widgets:    {c.widgets}",
   "  Last run:   " ++ c.lastRun?.getD "never"]

end PortfolioReports.CommandLine
