import PortfolioReports.Records.Filter
import PortfolioReports.Store.Basic

namespace PortfolioReports

namespace ExecutionRow

def passes (f : ExecutionFilter) (e : ExecutionRow) : Bool :=
  f.report?.all (fun u => e.report? == some u.toText) &&
  f.status?.all (fun x => e.status == Vocabulary.name x)

def listedBefore (a b : ExecutionRow) : Bool :=
  b.triggeredAt < a.triggeredAt || (a.triggeredAt == b.triggeredAt && !(b.id < a.id))

def updateFrom (new old : ExecutionRow) : ExecutionRow :=
  { old with
    status := new.status
    recordCount? := new.recordCount?
    fileSize? := new.fileSize?
    fileKey? := new.fileKey?
    error? := new.error?
    completedAt? := new.completedAt? }

end ExecutionRow

def ExecutionFilter.bound (f : ExecutionFilter) : Nat :=
  if f.limit = 0 then defaultPageSize.toNat else f.limit.toNat

namespace Store

def hasExecution (s : Store) (id : Uuid) : Bool := s.executions.any fun e => e.id == id.toText

def insertExecution (s : Store) (e : Execution) : Except StoreFault Store :=
  let row := ExecutionRow.ofExecution e
  if s.hasExecution e.id then .error (.duplicateId "report_executions")
  else if row.report?.all s.hasReport then .ok { s with executions := s.executions ++ [row] }
  else .error .missingParent

def getExecution (s : Store) (id : Uuid) : Except StoreFault (Option Execution) :=
  readFirst (fun e => e.id == id.toText) ExecutionRow.toExecution s.executions

/-- Writes status and outcome, whatever they were before. -/
def updateExecution (s : Store) (e : Execution) : Store × Bool :=
  ({ s with
      executions := change (fun r => r.id == e.id.toText) (ExecutionRow.ofExecution e).updateFrom s.executions },
    s.hasExecution e.id)

def listExecutions (s : Store) (f : ExecutionFilter) : Except StoreFault (List Execution) :=
  let rows := (s.executions.filter (ExecutionRow.passes f)).mergeSort ExecutionRow.listedBefore
  (rows.take f.bound).mapM ExecutionRow.toExecution

end Store

end PortfolioReports
