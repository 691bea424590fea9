import PortfolioReports.Records.Execution
import PortfolioReports.Store.Column

namespace PortfolioReports

structure ExecutionRow where
  id : String
  report? : Option String
  triggeredBy? : Option String
  status : String
  format : String
  recordCount? : Option Int64
  fileSize? : Option Int64
  fileKey? : Option String
  error? : Option String
  triggeredAt : String
  completedAt? : Option String
deriving DecidableEq

namespace ExecutionRow

open Stored Calendar

def ofExecution (e : Execution) : ExecutionRow where
  id := e.id.toText
  report? := e.report?.map Uuid.toText
  triggeredBy? := e.triggeredBy?.map Uuid.toText
  status := Vocabulary.name e.status
  format := Vocabulary.name e.format
  recordCount? := e.recordCount?
  fileSize? := e.fileSize?
  fileKey? := e.fileKey?
  error? := e.error?
  triggeredAt := utcText e.triggeredAt
  completedAt? := e.completedAt?.map utcText

def toExecution (e : ExecutionRow) : Except StoreFault Execution := do
  let id ← readUuid 0 e.id
  let report? ← readOptional readUuid 1 e.report?
  let triggeredBy? ← readOptional readUuid 2 e.triggeredBy?
  let status ← readWord 3 e.status
  let format ← readWord 4 e.format
  let triggeredAt ← readTime 9 e.triggeredAt
  let completedAt? ← readOptional readTime 10 e.completedAt?
  pure ⟨id, report?, triggeredBy?, status, format, e.recordCount?, e.fileSize?, e.fileKey?, e.error?,
    triggeredAt, completedAt?⟩

def overwrite? (column value : String) (e : ExecutionRow) : Option ExecutionRow :=
  match column with
  | "id" => some { e with id := value }
  | "report_definition_id" => some { e with report? := some value }
  | "triggered_by" => some { e with triggeredBy? := some value }
  | "status" => some { e with status := value }
  | "format" => some { e with format := value }
  | "file_key" => some { e with fileKey? := some value }
  | "error_message" => some { e with error? := some value }
  | "triggered_at" => some { e with triggeredAt := value }
  | "completed_at" => some { e with completedAt? := some value }
  | _ => none

end ExecutionRow

end PortfolioReports
