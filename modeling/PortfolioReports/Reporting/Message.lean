import PortfolioReports.Reporting.Request

namespace PortfolioReports

open Json

namespace Request

def fieldNames : List String :=
  ["do", "id", "report", "update", "filter", "name", "owner", "config", "title", "format", "triggered_by",
   "schedule", "active", "benchmark", "project", "query", "metric", "methodology", "region", "widget",
   "user", "section", "positions", "key", "value"]

def asPosition? : Json → Option (Uuid × Int64)
  | .list [id, position] => do pure (← asUuid? id, ← asInt64? position)
  | _ => none

def executionOfRecord? (r : Record) : Option Request := do
  let format ← r.fieldOr "format" asWord? .csv
  let agent? ← r.optionalOr "triggered_by" asUuid?
  match ← r.optionalOr "id" asUuid? with
  | some id => pure (executeReport id format agent?)
  | none =>
    pure (executeQuery (← r.field "config" ReportQuery.ofJson?) (← r.fieldOr "title" asText? "") format agent?)

def ofJson? (now : Calendar.Moment) (j : Json) : Option Request := do
  let r ← j.record? fieldNames
  let id := r.field "id" asUuid?
  match ← r.field "do" asText? with
  | "datasets" => pure datasets
  | "create_report" => createReport <$> r.field "report" NewReport.ofJson?
  | "get_report" => getReport <$> id
  | "update_report" => updateReport <$> id <*> r.field "update" ReportUpdate.ofJson?
  | "delete_report" => deleteReport <$> id
  | "list_reports" => listReports <$> r.fieldOr "filter" ReportFilter.ofJson? .all
  | "list_templates" => pure listTemplates
  | "clone_report" => cloneReport <$> id <*> r.field "name" asText? <*> r.optionalOr "owner" asUuid?
  | "execute" => executionOfRecord? r
  | "get_execution" => getExecution <$> id
  | "list_executions" => listExecutions <$> r.fieldOr "filter" ExecutionFilter.ofJson? .all
  | "cancel_execution" => cancelExecution <$> id
  | "create_schedule" => createSchedule <$> r.field "schedule" NewSchedule.ofJson?
  | "list_schedules" => listSchedules <$> r.optionalOr "id" asUuid?
  | "toggle_schedule" => setScheduleActive <$> id <*> r.field "active" asBool?
  | "delete_schedule" => deleteSchedule <$> id
  | "create_benchmark" => createBenchmark <$> r.field "benchmark" NewBenchmark.ofJson?
  | "update_benchmark" => updateBenchmark <$> id <*> r.field "benchmark" NewBenchmark.ofJson?
  | "get_benchmark" => getBenchmark <$> id
  | "delete_benchmark" => deleteBenchmark <$> id
  | "list_benchmarks" => listBenchmarks <$> r.fieldOr "filter" BenchmarkFilter.ofJson? .all
  | "compare" => compare <$> r.field "project" asUuid? <*> r.field "query" BenchmarkQuery.ofJson?
  | "peer_percentile" =>
    peerPercentile <$> r.field "project" asUuid? <*> r.field "metric" asText? <*>
      r.fieldOr "methodology" asText? "" <*> r.fieldOr "region" asText? ""
  | "save_widget" => saveWidget <$> r.field "widget" (Widget.ofJson? now)
  | "list_widgets" => listWidgets <$> r.optionalOr "user" asUuid? <*> r.optionalOr "section" asText?
  | "reorder_widgets" => moveWidgets <$> r.field "user" asUuid? <*> r.field "positions" (asList? asPosition?)
  | "delete_widget" => deleteWidget <$> id
  | "config_get" => getSetting <$> r.field "key" asText?
  | "config_set" => putSetting <$> r.field "key" asText? <*> r.field "value" asText?
  | "config_list" => pure listSettings
  | "settings" => pure settings
  | _ => none

end Request

namespace Answer

def outputJson (data : Rendering) : Json :=
  match data with
  | .text s => .text s
  | .workbook w => w.outline
  | .pages d => .object d.outline

def toJson : Answer → Json
  | nothing => .null
  | datasets names => texts names
  | report r => r.toJson
  | reportPage p => p.toJson Report.toJson
  | reports l => .list (l.map Report.toJson)
  | output o => .object [("execution", o.execution.toJson), ("data", outputJson o.data)]
  | execution e => e.toJson
  | executions l => .list (l.map Execution.toJson)
  | schedule s => s.toJson
  | schedules l => .list (l.map Schedule.toJson)
  | benchmark b => b.toJson
  | benchmarks l => .list (l.map Benchmark.toJson)
  | comparison c => c.toJson
  | percentile x => ofFloat x
  | widget w => w.toJson
  | widgets l => .list (l.map Widget.toJson)
  | moved n => ofNat n
  | setting value? => ofOption .text value?
  | settingPairs l => .list (l.map fun p => texts [p.1, p.2])
  | settings s => s.toJson

end Answer

end PortfolioReports
