import PortfolioReports.CommandLine.Host
import PortfolioReports.CommandLine.Lines
import PortfolioReports.CommandLine.Tree
import PortfolioReports.Csv.Stream
import PortfolioReports.Query.Catalog
import PortfolioReports.Reporting.Benchmarks
import PortfolioReports.Reporting.Executions
import PortfolioReports.Reporting.Schedules
import PortfolioReports.Reporting.Widgets

namespace PortfolioReports.CommandLine

open Work

variable {m : Type → Type} [Host m]

def readRows (path : String) : Work m (List Row) := readJson (Json.asList? Row.ofJson?) path

def benchmarksOfJson? (j : Json) : Option (List NewBenchmark) := do
  guard j.document?.isSome
  (Json.asList? NewBenchmark.ofJson? j).orElse fun _ => (NewBenchmark.ofJson? j).map fun b => [b]

def statementOf (q : ReportQuery) (count : Bool) : Except Fault Statement := do
  q.validate
  if count then q.compileCount else q.compile

def csvChunks (d : CsvDialect) (columns : List Column) (rows : List Row) : List String × Except Fault Nat :=
  let (status, header) := CsvStream.start d columns
  let (status, body) := status.run (rows.map .row ++ [.close])
  (header ++ body, match status with
    | .ended r => r
    | .running s => .ok s.written)

def exportCsv (d : CsvDialect) (columns : List Column) (rows : List Row) (out? : Option String) : Work m Unit := do
  let (chunks, result) := csvChunks d columns rows
  match out? with
  | some path => writeFile .creating path (String.join chunks)
  | none => chunks.forM print
  let _ ← check result

def exportRendering (s : Settings) (format : ExportFormat) (h : Heading) (columns : List Column) (rows : List Row) :
    Except Fault Rendering :=
  match format with
  | .json => .ok (.text (rowsText rows))
  | format => s.render format h rows columns

def exportRows (rowsPath : String) (format : ExportFormat) (config? title? out? : Option String) : Work m Unit := do
  let rows ← readRows rowsPath
  let columns ← match config? with
    | some path => ReportQuery.columns <$> readJson ReportQuery.ofJson? path
    | none => pure []
  let settings ← perform Reporting.getSettings
  match format with
  | .csv => exportCsv settings.csv columns rows out?
  | format =>
    let heading := ⟨title?.getD "Report", none, ← now⟩
    let rendering ← check (exportRendering settings format heading columns rows)
    deliverRendering out? rendering

def compare (project : Uuid) (metrics : String) (q : BenchmarkQuery) (json : Bool) : Work m Unit := do
  let figures ← readJson ProjectFigures.ofJson? metrics
  let c ← perform (Reporting.compare figures project q)
  if json then sayJson c.toJson else (comparisonLines c).forM say

def percentile (project : Uuid) (metric metrics methodology region : String) : Work m Unit := do
  let figures ← readJson ProjectFigures.ofJson? metrics
  let x ← perform (Reporting.peerPercentile figures project metric methodology region)
  say (Numeric.fixed 1 x)

def trend (values : List Float) (json : Bool) : Work m Unit :=
  match Trend.of? values with
  | some t => if json then sayJson (t.toJson Json.ofFloat) else (trendLines t).forM say
  | none => throw .tooFewValues

def createReport (file : String) : Work m Unit := do
  let request ← readJson NewReport.ofJson? file
  let r ← perform (Reporting.createReport (← fresh) (← now) request)
  say s!"Created report {r.id.toText} ({r.name})"

def listReports (filter : ReportFilter) (json : Bool) : Work m Unit := do
  let page ← perform (Reporting.listReports filter)
  if json then sayJson (page.toJson Report.toJson)
  else if page.items.isEmpty then say "No reports found."
  else (pageLines page).forM say

def updateReport (id : Uuid) (file : String) : Work m Unit := do
  let update ← readJson ReportUpdate.ofJson? file
  let r ← perform (Reporting.updateReport id (← now) update)
  say s!"Updated report {r.id.toText} to version {r.version.toInt}"

def cloneReport (id : Uuid) (name : String) (owner? : Option Uuid) : Work m Unit := do
  let r ← perform (Reporting.cloneReport id (← fresh) name owner? (← now))
  say s!"Created report {r.id.toText} ({r.name}) from {id.toText}"

def runReport (id : Uuid) (rowsPath : String) (format : ExportFormat) (triggeredBy? : Option Uuid)
    (out? : Option String) : Work m Unit := do
  let rows ← readRows rowsPath
  let execution ← fresh
  let time ← now
  let output ← performOn rows (Reporting.executeReport id execution format triggeredBy? time time (Host.formats m))
  note (runLine output.execution)
  deliverRendering out? output.data

def createSchedule (file : String) : Work m Unit := do
  let request ← readJson NewSchedule.ofJson? file
  let s ← perform (Reporting.createSchedule (← fresh) (← now) request)
  say s!"Created schedule {s.id.toText} ({s.cron} {s.timezone})"

def setScheduleActive (id : Uuid) (isActive : Bool) : Work m Unit := do
  perform (Reporting.setScheduleActive id isActive (← now))
  say ((if isActive then "Enabled: " else "Disabled: ") ++ id.toText)

def importBenchmark (request : NewBenchmark) : Work m Unit := do
  let b ← perform (Reporting.createBenchmark (← fresh) (← now) request)
  say s!"Imported benchmark {b.id.toText} ({b.name}, {b.year.toInt})"

def updateBenchmark (id : Uuid) (file : String) : Work m Unit := do
  let request ← readJson NewBenchmark.ofJson? file
  let b ← perform (Reporting.updateBenchmark id (← now) request)
  say s!"Updated benchmark {b.id.toText} ({b.name})"

def listBenchmarks (filter : BenchmarkFilter) (json : Bool) : Work m Unit := do
  let list ← perform (Reporting.listBenchmarks filter)
  if json then sayJson (.list (list.map Benchmark.toJson))
  else sayLines "No benchmarks." (list.map benchmarkLine)

def saveWidget (file : String) : Work m Unit := do
  let widget ← readJson (Widget.ofJson? (← now)) file
  let w ← perform (Reporting.saveWidget (← fresh) (← now) widget)
  say s!"Saved widget {w.id.toText} ({w.title})"

def getSetting (key : String) : Work m Unit := do
  match ← perform (Reporting.getSetting key) with
  | some value => say (settingLine (key, value))
  | none => say (key ++ " is not set")

def delete (id : Uuid) (call : Call Unit) : Work m Unit := do
  perform call
  say ("Deleted: " ++ id.toText)

def Command.usesStore : Command → Bool
  | compile .. | trend .. | datasets .. => false
  | _ => true

def Command.run : Command → Work m Unit
  | .compile config count => do
    let q ← readJson ReportQuery.ofJson? config
    (statementLines (← check (statementOf q count))).forM say
  | .exportRows rows format config? title? out? => CommandLine.exportRows rows format config? title? out?
  | .compare project metrics q json => CommandLine.compare project metrics q json
  | .percentile project metric metrics methodology region =>
    CommandLine.percentile project metric metrics methodology region
  | .trend values json => CommandLine.trend values json
  | .datasets json =>
    if json then sayJson (.list (Catalog.datasets.map Dataset.toJson))
    else (Catalog.datasets.flatMap datasetLines).forM say
  | .status => do
    (censusLines (← look .reports Store.census)).forM say
  | .createReport file => CommandLine.createReport file
  | .listReports filter json => CommandLine.listReports filter json
  | .showReport id => do sayJson (← perform (Reporting.getReport id)).toJson
  | .updateReport id file => CommandLine.updateReport id file
  | .deleteReport id => do delete id (Reporting.deleteReport id (← now))
  | .cloneReport id name owner? => CommandLine.cloneReport id name owner?
  | .listTemplates => do sayLines "No templates." ((← perform Reporting.listTemplates).map templateLine)
  | .runReport id rows format triggeredBy? out? => CommandLine.runReport id rows format triggeredBy? out?
  | .listExecutions filter => do
    sayLines "No executions." ((← perform (Reporting.listExecutions filter)).map executionLine)
  | .cancelExecution id => do
    let _ ← perform (Reporting.cancelExecution id (← now))
    say ("Cancelled: " ++ id.toText)
  | .createSchedule file => CommandLine.createSchedule file
  | .listSchedules report? => do
    sayLines "No schedules." ((← perform (Reporting.listSchedules report?)).map scheduleLine)
  | .setScheduleActive id isActive => CommandLine.setScheduleActive id isActive
  | .deleteSchedule id => delete id (Reporting.deleteSchedule id)
  | .importBenchmarks file => do (← readJson benchmarksOfJson? file).forM importBenchmark
  | .updateBenchmark id file => CommandLine.updateBenchmark id file
  | .listBenchmarks filter json => CommandLine.listBenchmarks filter json
  | .showBenchmark id => do sayJson (← perform (Reporting.getBenchmark id)).toJson
  | .deleteBenchmark id => delete id (Reporting.deleteBenchmark id)
  | .saveWidget file => CommandLine.saveWidget file
  | .listWidgets user? area? => do
    sayLines "No widgets." ((← perform (Reporting.listWidgets user? area?)).map widgetLine)
  | .deleteWidget id => delete id (Reporting.deleteWidget id)
  | .getSetting key => CommandLine.getSetting key
  | .putSetting key value => do
    perform (Reporting.putSetting key value)
    say "Config updated."
  | .listSettings => do sayLines "No configuration set." ((← perform Reporting.listSettings).map settingLine)

def Invocation.run (i : Invocation) : Work m Unit := do
  if i.command.usesStore then check (← ExceptT.lift (Host.openStore i.store?))
  i.command.run

def runProgram (arguments : List String) : m UInt32 := do
  match Invocation.read arguments with
  | .error .help => do
    Host.print helpText
    pure 0
  | .error .misuse => do
    Host.note usageText
    pure 2
  | .ok i => do
    match ← (i.run : Work m Unit).run with
    | .ok _ => pure 0
    | .error failure => do
      Host.note ("Error: " ++ failure.message)
      pure 1

end PortfolioReports.CommandLine
