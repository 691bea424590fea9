import PortfolioReports.Reporting.Preferences
import PortfolioReports.Reporting.Rendering
import PortfolioReports.Reporting.Reports
import PortfolioReports.Store.Executions

namespace PortfolioReports

open Calendar

structure RunRequest where
  id : Uuid
  report? : Option Uuid
  title : String
  description? : Option String
  query : ReportQuery
  format : ExportFormat
  triggeredBy? : Option Uuid
  startedAt : Moment
  endedAt : Moment
  formats : FileFormats

structure RunOutput where
  execution : Execution
  data : Rendering

namespace Execution

def pending (r : RunRequest) : Execution where
  id := r.id
  report? := r.report?
  triggeredBy? := r.triggeredBy?
  status := .pending
  format := r.format
  recordCount? := none
  fileSize? := none
  fileKey? := none
  error? := none
  triggeredAt := r.startedAt
  completedAt? := none

def fileKeyOf (id : Uuid) (format : ExportFormat) : String := s!"reports/{id.toText}.{format.extension}"

def succeeded (e : Execution) (r : RunRequest) (count : UInt64) (data : Rendering) : Execution :=
  { e with
    recordCount? := some count.toInt64
    fileSize? := some (Int64.ofNat (data.bytes r.formats).size)
    fileKey? := some (fileKeyOf r.id r.format)
    completedAt? := some r.endedAt }

def stopped (e : Execution) (message : String) (now : Moment) : Execution :=
  { e with error? := some message, completedAt? := some now }

end Execution

namespace Reporting

open Call

def cancelledByUser : String := "Cancelled by user"

def getExecution (id : Uuid) : Call Execution := do
  found (.execution id) (← read .executions fun s => s.getExecution id)

def listExecutions (f : ExecutionFilter) : Call (List Execution) := read .executions fun s => s.listExecutions f

def transition (id : Uuid) (status : ExecutionStatus) (apply : Execution → Execution) : Call Execution := do
  let e ← getExecution id
  check (e.status.checkBecomes status)
  let e := apply { e with status }
  let _ ← change fun s => s.updateExecution e
  pure e

def cancelExecution (id : Uuid) (now : Moment) : Call Execution :=
  transition id .failed fun e => e.stopped cancelledByUser now

def produce (r : RunRequest) (queries : StatementPair) : Call (UInt64 × Rendering) := do
  let fetched ← fetchRows queries
  let settings ← getSettings
  let data ← check (settings.render r.format ⟨r.title, r.description?, r.endedAt⟩ fetched.rows r.query.columns)
  pure (fetched.count, data)

/-- An execution that was ended meanwhile was cancelled. -/
def completionFault : Fault → Fault
  | .invalidTransition .. => .cancelled
  | f => f

def complete (r : RunRequest) (count : UInt64) (data : Rendering) : Call RunOutput := do
  match ← attempt (transition r.id .completed fun e => e.succeeded r count data) with
  | .ok e => pure ⟨e, data⟩
  | .error f => fail (completionFault f)

def giveUp (r : RunRequest) (cause : Fault) : Call RunOutput := do
  let _ ← attempt (transition r.id .failed fun e => e.stopped cause.message r.endedAt)
  fail cause

def execute (r : RunRequest) : Call RunOutput := do
  let queries ← check (StatementPair.of r.query)
  insert fun s => s.insertExecution (.pending r)
  let _ ← transition r.id .processing id
  match ← attempt (produce r queries) with
  | .ok (count, data) => complete r count data
  | .error cause => giveUp r cause

def executeReport (report id : Uuid) (format : ExportFormat) (triggeredBy? : Option Uuid)
    (startedAt endedAt : Moment) (formats : FileFormats) : Call RunOutput := do
  let report ← getReport report
  execute ⟨id, some report.id, report.name, report.description?, report.query, format, triggeredBy?, startedAt, endedAt,
    formats⟩

end Reporting

end PortfolioReports
