import PortfolioReports.CommandLine.Run
import PortfolioReports.CommandLine.StoreAddress

namespace PortfolioReports.CommandLine

open Calendar

/-- The names on a way from the folder at hand. An empty name at the start leads to the root, and `..`
out of the folder. -/
abbrev Trail := List String

namespace Trail

def isName (s : String) : Bool := s ≠ "" && s ≠ "."

def ofPath (path : String) : Trail :=
  let names := (path.splitOn "/").filter isName
  if path.startsWith "/" then "" :: names else names

def parent (t : Trail) : Trail :=
  if t = [""] then t else if t.all (· == "..") then t ++ [".."] else t.dropLast

/-- The trail with each `..` taken back, whatever it is taken back from. -/
def plain (t : Trail) : Trail := t.foldl (fun at_ n => if n = ".." then parent at_ else at_ ++ [n]) []

def namesFolder (path : String) : Bool := ["", ".", ".."].contains ((path.splitOn "/").getLastD "")

end Trail

inductive Device where
  | sink
  | output
deriving DecidableEq, Repr

def Device.ofTrail? : Trail → Option Device
  | ["", "dev", "null"] | ["", "dev", "stdin"] => some .sink
  | ["", "dev", "stdout"] => some .output
  | _ => none

structure OpenStore where
  store : Store
  mode : StoreMode
  trail? : Option Trail

structure MemoryHost where
  files : List (Trail × String)
  folders : List Trail
  stores : List (Trail × Store)
  opened : OpenStore
  standard? : Option String
  printed : List String
  notes : List String
  time : Moment
  used : Nat
  supply : Nat → Uuid

namespace MemoryHost

def start (files : List (String × String)) (standard? : Option String) (supply : Nat → Uuid) : MemoryHost where
  files := files.map fun f => (Trail.ofPath f.1, f.2)
  folders := []
  stores := []
  opened := ⟨.empty, .full, none⟩
  standard? := standard?
  printed := []
  notes := []
  time := ⟨⟨0⟩, .midnight⟩
  used := 0
  supply := supply

def trails (h : MemoryHost) : List Trail := h.files.map Prod.fst ++ h.stores.map Prod.fst ++ h.folders

def isFolder (h : MemoryHost) (t : Trail) : Bool :=
  t.all (· == "..") || h.folders.contains t || h.trails.any fun u => t.isPrefixOf u && t.length < u.length

/-- The trail with each `..` taken back from the folder before it. -/
def walk (h : MemoryHost) (at_ : Trail) : Trail → Option Trail
  | [] => some at_
  | n :: rest =>
    if n = ".." then if h.isFolder at_ then h.walk (Trail.parent at_) rest else none
    else h.walk (at_ ++ [n]) rest

def trail? (h : MemoryHost) (path : String) : Option Trail :=
  if Trail.namesFolder path then none else h.walk [] (Trail.ofPath path)

def hasRoom (h : MemoryHost) (t : Trail) : Bool := h.isFolder t.dropLast && !h.isFolder t && t ≠ []

def file? (h : MemoryHost) (path : String) : Option String := (h.trail? path).bind fun t => h.files.lookup t

def content? (h : MemoryHost) (path : String) : Option String :=
  if Device.ofTrail? (Trail.ofPath path) = some .sink then some "" else h.file? path

def putFile (h : MemoryHost) (path text : String) : MemoryHost :=
  let t := Trail.ofPath path
  { h with files := (t, text) :: h.files.filter fun f => f.1 ≠ t }

def writeFile (path text : String) : StateM MemoryHost Bool := do
  let h ← get
  match Device.ofTrail? (Trail.ofPath path), h.trail? path with
  | some .sink, _ => pure true
  | some .output, _ =>
    set { h with printed := text :: h.printed }
    pure true
  | none, some t =>
    if h.hasRoom t then
      set { h with files := (t, text) :: h.files.filter fun f => f.1 ≠ t }
      pure true
    else pure false
  | none, none => pure false

def keep (h : MemoryHost) (o : OpenStore) : MemoryHost :=
  { h with
    opened := o
    stores := match o.trail? with
      | some t => (t, o.store) :: h.stores.filter fun e => e.1 ≠ t
      | none => h.stores }

def prepare (a : StoreAddress) (text : String) (o : OpenStore) : Except Fault OpenStore :=
  if 1 < text.utf8ByteSize then .error (.unprepared .foreign)
  else if a.writes then .ok o
  else .error (.unprepared .readOnly)

def storeAt (h : MemoryHost) (a : StoreAddress) (path shown : String) : Except Fault OpenStore :=
  let t := Trail.plain (Trail.ofPath path)
  let mode := if a.writes then StoreMode.full else .readOnly
  match h.stores.lookup t, h.files.lookup t with
  | some store, _ => .ok ⟨store, mode, some t⟩
  | none, some text => prepare a text ⟨.empty, mode, some t⟩
  | none, none => if a.creates && h.hasRoom t then .ok ⟨.empty, mode, some t⟩ else .error (.unopened shown)

def storeOf (h : MemoryHost) (shown : String) : Except Fault OpenStore :=
  match StoreAddress.read shown with
  | .error cause => .error (.address cause)
  | .ok a => match a.place with
    | .apart => .ok ⟨.empty, .unseen, none⟩
    | .shared => .ok ⟨.empty, .full, none⟩
    | .file path => h.storeAt a path shown

def openStore (path? : Option String) : StateM MemoryHost (Except Fault Unit) := do
  let h ← get
  let h := match path?, h.standard? with
    | none, some path => { h with folders := (Trail.ofPath path).dropLast :: h.folders }
    | _, _ => h
  match path?.orElse fun _ => h.standard? with
  | some path => match h.storeOf path with
    | .ok o =>
      set (h.keep o)
      pure (.ok ())
    | .error cause => pure (.error cause)
  | none => pure (.error (.setting .noHome))

def textOf (bytes : ByteArray) : String := (String.fromUTF8? bytes).getD ""

instance : Host (StateM MemoryHost) where
  readFile path := do pure ((← get).content? path)
  writeFile := writeFile
  writeBytes path bytes := writeFile path (textOf bytes)
  print s := modify fun h => { h with printed := s :: h.printed }
  printBytes bytes := modify fun h => { h with printed := textOf bytes :: h.printed }
  note s := modify fun h => { h with notes := s :: h.notes }
  fresh := do
    let h ← get
    set { h with used := h.used + 1 }
    pure (h.supply h.used)
  now := do pure (← get).time
  openStore := openStore
  storeMode := do pure (← get).opened.mode
  formats := .outlines
  access f := do
    let h ← get
    let (store, a) := f h.opened.store
    set (h.keep { h.opened with store })
    pure a

def output (h : MemoryHost) : String := String.join h.printed.reverse

end MemoryHost

end PortfolioReports.CommandLine
