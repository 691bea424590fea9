import PortfolioReports.Query.Catalog
import PortfolioReports.Reporting.Benchmarks
import PortfolioReports.Reporting.Executions
import PortfolioReports.Reporting.Schedules
import PortfolioReports.Reporting.Widgets

namespace PortfolioReports

open Calendar

inductive Request where
  | datasets
  | createReport (report : NewReport)
  | getReport (id : Uuid)
  | updateReport (id : Uuid) (update : ReportUpdate)
  | deleteReport (id : Uuid)
  | listReports (filter : ReportFilter)
  | listTemplates
  | cloneReport (id : Uuid) (name : String) (owner? : Option Uuid)
  | executeReport (id : Uuid) (format : ExportFormat) (triggeredBy? : Option Uuid)
  | executeQuery (query : ReportQuery) (title : String) (format : ExportFormat) (triggeredBy? : Option Uuid)
  | getExecution (id : Uuid)
  | listExecutions (filter : ExecutionFilter)
  | cancelExecution (id : Uuid)
  | createSchedule (schedule : NewSchedule)
  | listSchedules (report? : Option Uuid)
  | setScheduleActive (id : Uuid) (isActive : Bool)
  | deleteSchedule (id : Uuid)
  | createBenchmark (benchmark : NewBenchmark)
  | updateBenchmark (id : Uuid) (benchmark : NewBenchmark)
  | getBenchmark (id : Uuid)
  | deleteBenchmark (id : Uuid)
  | listBenchmarks (filter : BenchmarkFilter)
  | compare (project : Uuid) (query : BenchmarkQuery)
  | peerPercentile (project : Uuid) (metric methodology region : String)
  | saveWidget (widget : Widget)
  | listWidgets (user? : Option Uuid) (area? : Option String)
  | moveWidgets (user : Uuid) (positions : List (Uuid × Int64))
  | deleteWidget (id : Uuid)
  | getSetting (key : String)
  | putSetting (key value : String)
  | listSettings
  | settings

inductive Answer where
  | nothing
  | datasets (names : List String)
  | report (r : Report)
  | reportPage (p : Page Report)
  | reports (l : List Report)
  | output (o : RunOutput)
  | execution (e : Execution)
  | executions (l : List Execution)
  | schedule (s : Schedule)
  | schedules (l : List Schedule)
  | benchmark (b : Benchmark)
  | benchmarks (l : List Benchmark)
  | comparison (c : Comparison Float)
  | percentile (x : Float)
  | widget (w : Widget)
  | widgets (l : List Widget)
  | moved (n : Nat)
  | setting (value? : Option String)
  | settingPairs (l : List (String × String))
  | settings (s : Settings)

structure CallSetting where
  fresh : Uuid
  now : Moment
  figures : ProjectFigures
  formats : FileFormats

namespace Request

open Reporting

def call (c : CallSetting) : Request → Call Answer
  | datasets => pure (.datasets (Catalog.datasets.map Dataset.name))
  | createReport r => Answer.report <$> Reporting.createReport c.fresh c.now r
  | getReport id => Answer.report <$> Reporting.getReport id
  | updateReport id u => Answer.report <$> Reporting.updateReport id c.now u
  | deleteReport id => (fun _ => .nothing) <$> Reporting.deleteReport id c.now
  | listReports f => Answer.reportPage <$> Reporting.listReports f
  | listTemplates => Answer.reports <$> Reporting.listTemplates
  | cloneReport id name owner? => Answer.report <$> Reporting.cloneReport id c.fresh name owner? c.now
  | executeReport id format agent? =>
    Answer.output <$> Reporting.executeReport id c.fresh format agent? c.now c.now c.formats
  | executeQuery q title format agent? =>
    Answer.output <$> execute ⟨c.fresh, none, title, none, q, format, agent?, c.now, c.now, c.formats⟩
  | getExecution id => Answer.execution <$> Reporting.getExecution id
  | listExecutions f => Answer.executions <$> Reporting.listExecutions f
  | cancelExecution id => Answer.execution <$> Reporting.cancelExecution id c.now
  | createSchedule s => Answer.schedule <$> Reporting.createSchedule c.fresh c.now s
  | listSchedules report? => Answer.schedules <$> Reporting.listSchedules report?
  | setScheduleActive id isActive => (fun _ => .nothing) <$> Reporting.setScheduleActive id isActive c.now
  | deleteSchedule id => (fun _ => .nothing) <$> Reporting.deleteSchedule id
  | createBenchmark b => Answer.benchmark <$> Reporting.createBenchmark c.fresh c.now b
  | updateBenchmark id b => Answer.benchmark <$> Reporting.updateBenchmark id c.now b
  | getBenchmark id => Answer.benchmark <$> Reporting.getBenchmark id
  | deleteBenchmark id => (fun _ => .nothing) <$> Reporting.deleteBenchmark id
  | listBenchmarks f => Answer.benchmarks <$> Reporting.listBenchmarks f
  | compare project q => Answer.comparison <$> Reporting.compare c.figures project q
  | peerPercentile project metric methodology region =>
    Answer.percentile <$> Reporting.peerPercentile c.figures project metric methodology region
  | saveWidget w => Answer.widget <$> Reporting.saveWidget c.fresh c.now w
  | listWidgets user? area? => Answer.widgets <$> Reporting.listWidgets user? area?
  | moveWidgets user positions => Answer.moved <$> Reporting.moveWidgets user positions c.now
  | deleteWidget id => (fun _ => .nothing) <$> Reporting.deleteWidget id
  | getSetting key => Answer.setting <$> Reporting.getSetting key
  | putSetting key value => (fun _ => .nothing) <$> Reporting.putSetting key value
  | listSettings => Answer.settingPairs <$> Reporting.listSettings
  | settings => Answer.settings <$> Reporting.getSettings

end Request

end PortfolioReports
