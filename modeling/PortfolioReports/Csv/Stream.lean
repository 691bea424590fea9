import PortfolioReports.Csv.Writer

/-!
The header is a chunk of its own, sent once the columns are known. Rows are sent a thousand at a time, and what is
left is sent when the input closes. A cancelled stream keeps back the rows that it has not sent.
-/

namespace PortfolioReports

def rowsPerChunk : Nat := 1000

inductive StreamEvent where
  | row (r : Row)
  | close
  | cancel
  | dropSource
  | dropReceiver

structure CsvStream where
  dialect : CsvDialect
  columns? : Option (List Column)
  headerPending : Bool
  /-- The lines of the rows that were not sent, the newest first. -/
  held : List String
  heldCount : Nat
  written : Nat
  receiving : Bool

inductive StreamStatus where
  | running (s : CsvStream)
  | ended (r : Except Fault Nat)

namespace CsvStream

def send (s : CsvStream) (chunk : String) (next : StreamStatus) : StreamStatus × List String :=
  if s.receiving then (next, [chunk]) else (.ended (.error (.render .receiverGone)), [])

def start (d : CsvDialect) (columns : List Column) : StreamStatus × List String :=
  let s : CsvStream :=
    ⟨d, if columns.isEmpty then none else some columns, d.includeHeader, [], 0, 0, true⟩
  if d.includeHeader && !columns.isEmpty then
    s.send (d.header columns) (.running { s with headerPending := false })
  else (.running s, [])

def heldText (s : CsvStream) : String := String.join s.held.reverse

def push (s : CsvStream) (line : String) : StreamStatus × List String :=
  let s := { s with held := line :: s.held, heldCount := s.heldCount + 1, written := s.written + 1 }
  if rowsPerChunk ≤ s.heldCount then s.send s.heldText (.running { s with held := [], heldCount := 0 })
  else (.running s, [])

def pushRow (s : CsvStream) (columns : List Column) (r : Row) : StreamStatus × List String :=
  match s.dialect.rowText columns r with
  | .ok line => s.push line
  | .error f => (.ended (.error f), [])

def takeRow (s : CsvStream) (r : Row) : StreamStatus × List String :=
  let columns := s.columns?.getD (Column.ofRow r)
  let s' := { s with columns? := some columns, headerPending := false }
  if s.headerPending && !columns.isEmpty then
    match s.send (s.dialect.header columns) (.running s') with
    | (.running s, sent) =>
      let (status, more) := s.pushRow columns r
      (status, sent ++ more)
    | ended => ended
  else s'.pushRow columns r

def finish (s : CsvStream) : StreamStatus × List String :=
  if s.heldText.isEmpty then (.ended (.ok s.written), [])
  else s.send s.heldText (.ended (.ok s.written))

def step (s : CsvStream) : StreamEvent → StreamStatus × List String
  | .row r => s.takeRow r
  | .close => s.finish
  | .cancel => (.ended (.error .cancelled), [])
  | .dropSource => (.running s, [])
  | .dropReceiver => (.running { s with receiving := false }, [])

end CsvStream

namespace StreamStatus

def isEnded : StreamStatus → Bool
  | running _ => false
  | ended _ => true

def step : StreamStatus → StreamEvent → StreamStatus × List String
  | running s, e => s.step e
  | ended r, _ => (ended r, [])

def run (status : StreamStatus) (events : List StreamEvent) : StreamStatus × List String :=
  events.foldl (fun (status, chunks) e =>
    let (status, more) := status.step e
    (status, chunks ++ more)) (status, [])

end StreamStatus

end PortfolioReports
