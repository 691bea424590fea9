import PortfolioReports.Store.Basic

namespace PortfolioReports.Store

def integrityFault? (s : Store) : Option StoreFault :=
  let repeated (ids : List String) := ids.eraseDups.length < ids.length
  if repeated (s.reports.map ReportRow.id) then some (.duplicateId "report_definitions")
  else if repeated (s.executions.map ExecutionRow.id) then some (.duplicateId "report_executions")
  else if repeated (s.schedules.map ScheduleRow.id) then some (.duplicateId "report_schedules")
  else if repeated (s.benchmarks.map BenchmarkRow.id) then some (.duplicateId "benchmark_datasets")
  else if repeated (s.widgets.map WidgetRow.id) then some (.duplicateId "dashboard_widgets")
  else if repeated (s.settings.map Prod.fst) then some .duplicateKey
  else if s.executions.all (fun e => e.report?.all s.hasReport) &&
      s.schedules.all (fun x => s.hasReport x.report) then none
  else some .missingParent

def damageSettings? (column value : String) (settings : List (String × String)) :
    Option (List (String × String)) :=
  match column with
  | "key" => some (settings.map fun e => (value, e.2))
  | "value" => some (settings.map fun e => (e.1, value))
  | "updated_at" => some settings
  | _ => none

def damageTable? (s : Store) (table column value : String) : Option (Store × Nat) :=
  match table with
  | "report_definitions" =>
    (s.reports.mapM (ReportRow.overwrite? column value)).map fun rows => ({ s with reports := rows }, rows.length)
  | "report_executions" =>
    (s.executions.mapM (ExecutionRow.overwrite? column value)).map fun rows =>
      ({ s with executions := rows }, rows.length)
  | "report_schedules" =>
    (s.schedules.mapM (ScheduleRow.overwrite? column value)).map fun rows =>
      ({ s with schedules := rows }, rows.length)
  | "benchmark_datasets" =>
    (s.benchmarks.mapM (BenchmarkRow.overwrite? column value)).map fun rows =>
      ({ s with benchmarks := rows }, rows.length)
  | "dashboard_widgets" =>
    (s.widgets.mapM (WidgetRow.overwrite? column value)).map fun rows => ({ s with widgets := rows }, rows.length)
  | "app_config" =>
    (damageSettings? column value s.settings).map fun settings => ({ s with settings }, settings.length)
  | _ => none

def damage? (s : Store) (table column value : String) : Option (Except StoreFault (Store × Nat)) :=
  (s.damageTable? table column value).map fun (damaged, n) =>
    match damaged.integrityFault? with
    | some fault => .error fault
    | none => .ok (damaged, n)

end PortfolioReports.Store
