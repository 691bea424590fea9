import PortfolioReports.Csv.Stream

namespace PortfolioReports

inductive CancelSignal where
  | armed
  | fired
  | silent
deriving DecidableEq, Repr

namespace CancelSignal

def fire : CancelSignal → CancelSignal
  | armed | fired => fired
  | silent => silent

def dropSource : CancelSignal → CancelSignal
  | armed | silent => silent
  | fired => fired

end CancelSignal

structure StreamTask where
  status : StreamStatus
  waiting : List Row
  inputClosed : Bool
  signal : CancelSignal
  chunks : List String

inductive TaskEvent where
  | arrive (r : Row)
  | close
  | cancel
  | dropSource
  | turn

namespace StreamTask

def start (d : CsvDialect) (columns : List Column) (signal : CancelSignal) : StreamTask :=
  let (status, chunks) := CsvStream.start d columns
  ⟨status, [], false, signal, chunks⟩

def react (t : StreamTask) (e : StreamEvent) : StreamTask :=
  let (status, sent) := t.status.step e
  { t with status, chunks := t.chunks ++ sent }

/-- One round of a task that runs: it stops if it is cancelled, else takes a row, else ends with its input. -/
def turn (t : StreamTask) : StreamTask :=
  if t.status.isEnded then t
  else if t.signal = .fired then t.react .cancel
  else match t.waiting with
    | r :: rest => { t with waiting := rest }.react (.row r)
    | [] => if t.inputClosed then t.react .close else t

def isOpen (t : StreamTask) : Bool := !t.inputClosed && !t.status.isEnded

def step (t : StreamTask) : TaskEvent → StreamTask
  | .arrive r => if t.isOpen then { t with waiting := t.waiting ++ [r] } else t
  | .close => { t with inputClosed := true }
  | .cancel => { t with signal := t.signal.fire }
  | .dropSource => { t with signal := t.signal.dropSource }
  | .turn => t.turn

def run (t : StreamTask) (events : List TaskEvent) : StreamTask := events.foldl step t

def settle (t : StreamTask) : StreamTask := t.run (List.replicate (t.waiting.length + 1) .turn)

end StreamTask

end PortfolioReports
