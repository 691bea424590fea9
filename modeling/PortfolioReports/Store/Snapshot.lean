import PortfolioReports.Store.Basic

namespace PortfolioReports

open Json

def optionalText (s? : Option String) : Json := ofOption .text s?

def optionalInt (n? : Option Int64) : Json := ofOption (fun n => .int n.toInt) n?

def asOptionalText? : Json → Option (Option String) := Record.nullable asText?

def asOptionalInt? : Json → Option (Option Int64) := Record.nullable asInt64?

namespace ReportRow

def snapshot (r : ReportRow) : Json := .list
  [.text r.id, .text r.name, optionalText r.description?, .text r.category, .text r.query, optionalText r.createdBy?,
   .text r.visibility, .int r.version.toInt, .bool r.isTemplate, optionalText r.basedOn?, .text r.createdAt,
   .text r.updatedAt, optionalText r.deletedAt?]

def ofSnapshot? : Json → Option ReportRow
  | .list [.text id, .text name, description, .text category, .text query, createdBy, .text visibility, version,
      .bool isTemplate, basedOn, .text createdAt, .text updatedAt, deletedAt] => do
    pure ⟨id, name, ← asOptionalText? description, category, query, ← asOptionalText? createdBy, visibility,
      ← asInt64? version, isTemplate, ← asOptionalText? basedOn, createdAt, updatedAt, ← asOptionalText? deletedAt⟩
  | _ => none

end ReportRow

namespace ExecutionRow

def snapshot (e : ExecutionRow) : Json := .list
  [.text e.id, optionalText e.report?, optionalText e.triggeredBy?, .text e.status, .text e.format,
   optionalInt e.recordCount?, optionalInt e.fileSize?, optionalText e.fileKey?, optionalText e.error?,
   .text e.triggeredAt, optionalText e.completedAt?]

def ofSnapshot? : Json → Option ExecutionRow
  | .list [.text id, report, triggeredBy, .text status, .text format, recordCount, fileSize, fileKey, error,
      .text triggeredAt, completedAt] => do
    pure ⟨id, ← asOptionalText? report, ← asOptionalText? triggeredBy, status, format, ← asOptionalInt? recordCount,
      ← asOptionalInt? fileSize, ← asOptionalText? fileKey, ← asOptionalText? error, triggeredAt,
      ← asOptionalText? completedAt⟩
  | _ => none

end ExecutionRow

namespace ScheduleRow

def snapshot (s : ScheduleRow) : Json := .list
  [.text s.id, .text s.report, .text s.name, .text s.cron, .text s.timezone, .bool s.isActive, .text s.format,
   .text s.delivery, .text s.recipients, optionalText s.webhook?, optionalText s.createdBy?, .text s.createdAt,
   .text s.updatedAt]

def ofSnapshot? : Json → Option ScheduleRow
  | .list [.text id, .text report, .text name, .text cron, .text timezone, .bool isActive, .text format,
      .text delivery, .text recipients, webhook, createdBy, .text createdAt, .text updatedAt] => do
    pure ⟨id, report, name, cron, timezone, isActive, format, delivery, recipients, ← asOptionalText? webhook,
      ← asOptionalText? createdBy, createdAt, updatedAt⟩
  | _ => none

end ScheduleRow

namespace BenchmarkRow

def snapshot (b : BenchmarkRow) : Json := .list
  [.text b.id, .text b.name, optionalText b.description?, .text b.category, optionalText b.methodology?,
   optionalText b.region?, .int b.year.toInt, optionalText b.source?, ofOption ofFloat b.confidence?,
   .bool b.isActive, .text b.metrics, .text b.createdAt, .text b.updatedAt]

def ofSnapshot? : Json → Option BenchmarkRow
  | .list [.text id, .text name, description, .text category, methodology, region, year, source, confidence,
      .bool isActive, .text metrics, .text createdAt, .text updatedAt] => do
    pure ⟨id, name, ← asOptionalText? description, category, ← asOptionalText? methodology, ← asOptionalText? region,
      ← asInt32? year, ← asOptionalText? source, ← Record.nullable asFloat? confidence, isActive, metrics, createdAt,
      updatedAt⟩
  | _ => none

end BenchmarkRow

namespace WidgetRow

def snapshot (w : WidgetRow) : Json := .list
  [.text w.id, optionalText w.owner?, .text w.area, .text w.kind, .text w.title, .text w.config, .text w.size,
   .int w.position.toInt, .int w.refreshSeconds.toInt, .bool w.isVisible, .text w.createdAt, .text w.updatedAt]

def ofSnapshot? : Json → Option WidgetRow
  | .list [.text id, owner, .text area, .text kind, .text title, .text config, .text size, position, refresh,
      .bool isVisible, .text createdAt, .text updatedAt] => do
    pure ⟨id, ← asOptionalText? owner, area, kind, title, config, size, ← asInt64? position, ← asInt64? refresh,
      isVisible, createdAt, updatedAt⟩
  | _ => none

end WidgetRow

namespace Store

def asSetting? : Json → Option (String × String)
  | .list [.text key, .text value] => some (key, value)
  | _ => none

def snapshot (s : Store) : Json := .list
  [.list (s.reports.map ReportRow.snapshot), .list (s.executions.map ExecutionRow.snapshot),
   .list (s.schedules.map ScheduleRow.snapshot), .list (s.benchmarks.map BenchmarkRow.snapshot),
   .list (s.widgets.map WidgetRow.snapshot), .list (s.settings.map fun e => texts [e.1, e.2])]

def ofSnapshot? : Json → Option Store
  | .list [reports, executions, schedules, benchmarks, widgets, settings] => do
    pure ⟨← asList? ReportRow.ofSnapshot? reports, ← asList? ExecutionRow.ofSnapshot? executions,
      ← asList? ScheduleRow.ofSnapshot? schedules, ← asList? BenchmarkRow.ofSnapshot? benchmarks,
      ← asList? WidgetRow.ofSnapshot? widgets, ← asList? asSetting? settings⟩
  | _ => none

end Store

end PortfolioReports
