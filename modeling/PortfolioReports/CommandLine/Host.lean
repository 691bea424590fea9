import PortfolioReports.Json.Parser
import PortfolioReports.Json.Record
import PortfolioReports.Reporting.Call
import PortfolioReports.Reporting.Rendering

namespace PortfolioReports.CommandLine

open Calendar

class Host (m : Type → Type) extends Monad m where
  readFile : String → m (Option String)
  writeFile : String → String → m Bool
  writeBytes : String → ByteArray → m Bool
  print : String → m Unit
  printBytes : ByteArray → m Unit
  note : String → m Unit
  fresh : m Uuid
  now : m Moment
  openStore : Option String → m (Except Fault Unit)
  storeMode : m StoreMode
  formats : FileFormats
  access {α : Type} : (Store → Store × α) → m α

inductive Failure where
  | fault (cause : Fault)
  | store (cause : StoreFault)
  | reading (path : String)
  | parsing (path : String)
  | creating (path : String)
  | writing (path : String)
  | tooFewValues

def Failure.message : Failure → String
  | .fault cause => cause.message
  | .store cause => cause.told
  | .reading path => "reading " ++ path
  | .parsing path => "parsing " ++ path
  | .creating path => "creating " ++ path
  | .writing path => "writing " ++ path
  | .tooFewValues => "a trend needs at least two values"

abbrev Work (m : Type → Type) := ExceptT Failure m

namespace Work

variable {m : Type → Type} [Host m] {α : Type}

def check (r : Except Fault α) : Work m α :=
  match r with
  | .ok a => pure a
  | .error cause => throw (.fault cause)

def print (s : String) : Work m Unit := ExceptT.lift (Host.print s)

def say (line : String) : Work m Unit := print (line ++ "\n")

def note (line : String) : Work m Unit := ExceptT.lift (Host.note line)

def fresh : Work m Uuid := ExceptT.lift Host.fresh

def now : Work m Moment := ExceptT.lift Host.now

def sayJson (j : Json) : Work m Unit := say j.pretty

def sayLines (ifNone : String) (lines : List String) : Work m Unit :=
  if lines.isEmpty then say ifNone else lines.forM say

def readJson (read : Json → Option α) (path : String) : Work m α := do
  let some text ← ExceptT.lift (Host.readFile path) | throw (.reading path)
  match (Json.parse? text).bind (Json.within? read) with
  | some a => pure a
  | none => throw (.parsing path)

def writeFile (failure : String → Failure) (path text : String) : Work m Unit := do
  unless ← ExceptT.lift (Host.writeFile path text) do throw (failure path)

def performOn (rows : List Row) (call : Call α) : Work m α := do
  let source (_ : StatementPair) : FetchCourse := .answered ⟨rows, rows.length.toUInt64⟩
  let mode ← ExceptT.lift Host.storeMode
  check (← ExceptT.lift (Host.access ((call.under mode).run source)))

def perform (call : Call α) : Work m α := performOn [] call

def look (table : StoreTable) (f : Store → α) : Work m α := do
  match (← ExceptT.lift Host.storeMode).refusal? (.read table) with
  | some cause => throw (.store cause)
  | none => ExceptT.lift (Host.access fun s => (s, f s))

def deliver (out? : Option String) (text : String) : Work m Unit := do
  match out? with
  | some path =>
    writeFile .writing path text
    note s!"Wrote {text.utf8ByteSize} bytes to {path}"
  | none => print text

def deliverBytes (out? : Option String) (bytes : ByteArray) : Work m Unit := do
  match out? with
  | some path =>
    unless ← ExceptT.lift (Host.writeBytes path bytes) do throw (.writing path)
    note s!"Wrote {bytes.size} bytes to {path}"
  | none => ExceptT.lift (Host.printBytes bytes)

def deliverRendering (out? : Option String) : Rendering → Work m Unit
  | .text s => deliver out? s
  | r => deliverBytes out? (r.bytes (Host.formats m))

end Work

end PortfolioReports.CommandLine
