import PortfolioReports.CommandLine.Run
import PortfolioReports.CommandLine.StoreAddress
import PortfolioReports.Store.Snapshot
import Std.Time.DateTime.Timestamp

namespace PortfolioReports.CommandLine

open Calendar

structure MachineStore where
  path? : Option String
  mode : StoreMode
  store : Store

def momentOfNanos (n : Int) : Moment :=
  let seconds := n / 1000000000
  ⟨⟨seconds / 86400⟩, ⟨(seconds % 86400).toNat, (n % 1000000000).toNat⟩⟩

def randomUuid : IO Uuid := do
  let bytes := (← IO.getRandomBytes 16).toList
  let byte (i : Nat) (b : UInt8) : UInt8 := if i = 6 then b % 16 + 64 else if i = 8 then b % 64 + 128 else b
  let digits := (bytes.mapIdx byte).flatMap fun b => (Text.padLeft 2 (Text.hexText b.toNat) '0').toList
  pure ((Uuid.ofDigits? digits).getD .nil)

def readText? (path : String) : IO (Option String) := do
  try pure (some (← IO.FS.readFile path)) catch _ => pure none

def writeAll (path : String) (bytes : ByteArray) : IO Bool := do
  try
    IO.FS.writeBinFile path bytes
    pure true
  catch _ => pure false

def writeText (path text : String) : IO Bool := writeAll path text.toUTF8

def standardStore? : IO (Option String) := do
  match ← IO.getEnv "HOME" with
  | some home =>
    let folder := home ++ "/.portal-analytics"
    try IO.FS.createDirAll folder catch _ => pure ()
    pure (some (folder ++ "/analytics.db"))
  | none => pure none

def loadStore (a : StoreAddress) (path shown : String) : IO (Except Fault MachineStore) := do
  let mode := if a.writes then StoreMode.full else .readOnly
  match ← readText? path with
  | some text => match (Json.parse? text).bind Store.ofSnapshot? with
    | some store => pure (.ok ⟨some path, mode, store⟩)
    | none => pure (.error (.unprepared .foreign))
  | none =>
    if a.creates then
      if ← writeText path Store.empty.snapshot.print then return .ok ⟨some path, mode, .empty⟩
    pure (.error (.unopened shown))

def storeOf (shown : String) : IO (Except Fault MachineStore) := do
  match StoreAddress.read shown with
  | .error cause => pure (.error (.address cause))
  | .ok a => match a.place with
    | .apart => pure (.ok ⟨none, .unseen, .empty⟩)
    | .shared => pure (.ok ⟨none, .full, .empty⟩)
    | .file path => loadStore a path shown

abbrev Machine := StateT MachineStore IO

def openStore (path? : Option String) : Machine (Except Fault Unit) := do
  let path? ← match path? with
    | some path => pure (some path)
    | none => standardStore?
  match path? with
  | none => pure (.error (.setting .noHome))
  | some path => match ← storeOf path with
    | .ok s => do
      set s
      pure (.ok ())
    | .error cause => pure (.error cause)

instance : Host Machine where
  readFile path := readText? path
  writeFile path text := writeText path text
  writeBytes path bytes := writeAll path bytes
  print s := do
    (← IO.getStdout).putStr s
  printBytes bytes := do
    (← IO.getStdout).write bytes
  note s := IO.eprintln s
  fresh := randomUuid
  now := do pure (momentOfNanos (← Std.Time.Timestamp.now).toNanosecondsSinceUnixEpoch.val)
  openStore := openStore
  storeMode := do pure (← get).mode
  formats := .outlines
  access f := do
    let s ← get
    let (store, a) := f s.store
    set { s with store }
    match s.path? with
    | some path => let _ ← writeText path store.snapshot.print
    | none => pure ()
    pure a

end PortfolioReports.CommandLine

open PortfolioReports CommandLine in
def main (arguments : List String) : IO UInt32 := do
  let (code, _) ← (runProgram arguments : Machine UInt32).run ⟨none, .full, .empty⟩
  pure code
