import PortfolioReports.Query.Admission
import PortfolioReports.Query.Statement
import PortfolioReports.Table.Row

namespace PortfolioReports

structure StatementPair where
  rows : Statement
  count : Statement

def StatementPair.of (q : ReportQuery) : Except Fault StatementPair := do
  q.validate
  let rows ← q.compile
  let count ← q.compileCount
  pure ⟨rows, count⟩

structure Fetched where
  rows : List Row
  count : UInt64

inductive FetchCourse where
  | notBegun
  | refused (cause : Fault)
  | interrupted
  | failed (cause : Fault)
  | answered (fetched : Fetched)

namespace FetchCourse

def result : FetchCourse → Except Fault Fetched
  | notBegun | interrupted => .error .cancelled
  | refused cause | failed cause => .error cause
  | answered fetched => .ok fetched

def asked (queries : StatementPair) : FetchCourse → List Statement
  | notBegun => []
  | refused _ => [queries.rows]
  | interrupted | failed _ | answered _ => [queries.rows, queries.count]

end FetchCourse

end PortfolioReports
