import PortfolioReports.Records.Report
import PortfolioReports.Records.Status

namespace PortfolioReports

open Calendar Json

structure Execution where
  id : Uuid
  report? : Option Uuid
  triggeredBy? : Option Uuid
  status : ExecutionStatus
  format : ExportFormat
  recordCount? : Option Int64
  fileSize? : Option Int64
  fileKey? : Option String
  error? : Option String
  triggeredAt : Moment
  completedAt? : Option Moment

namespace Execution

def ofJson? (j : Json) : Option Execution := do
  let r ← j.record?
    ["id", "report_definition_id", "triggered_by", "status", "format", "record_count",
     "file_size_bytes", "file_key", "error_message", "triggered_at", "completed_at"]
  let id ← r.field "id" asUuid?
  let report? ← r.optional "report_definition_id" asUuid?
  let triggeredBy? ← r.optional "triggered_by" asUuid?
  let status ← r.field "status" asWord?
  let format ← r.field "format" asWord?
  let recordCount? ← r.optional "record_count" asInt64?
  let fileSize? ← r.optional "file_size_bytes" asInt64?
  let fileKey? ← r.optional "file_key" asText?
  let error? ← r.optional "error_message" asText?
  let triggeredAt ← r.field "triggered_at" asMoment?
  let completedAt? ← r.optional "completed_at" asMoment?
  pure ⟨id, report?, triggeredBy?, status, format, recordCount?, fileSize?, fileKey?, error?,
    triggeredAt, completedAt?⟩

def toJson (e : Execution) : Json := .object
  [("id", ofUuid e.id), ("report_definition_id", ofOption ofUuid e.report?),
   ("triggered_by", ofOption ofUuid e.triggeredBy?), ("status", ofWord e.status),
   ("format", ofWord e.format), ("record_count", ofOption (fun n => .int n.toInt) e.recordCount?),
   ("file_size_bytes", ofOption (fun n => .int n.toInt) e.fileSize?),
   ("file_key", ofOption .text e.fileKey?), ("error_message", ofOption .text e.error?),
   ("triggered_at", ofMoment e.triggeredAt), ("completed_at", ofOption ofMoment e.completedAt?)]

end Execution

end PortfolioReports
