import PortfolioReports.Text.Hex
import PortfolioReports.Text.Width

namespace PortfolioReports

open Text

structure Uuid where
  digits : Vector (Fin 16) 32
deriving DecidableEq

inductive UuidFault where
  | character (c : Char) (index : Nat)
  | length (found : Nat)
  | groupCount (found : Nat)
  | groupLength (group expected found : Nat)
deriving DecidableEq

def UuidFault.message : UuidFault → String
  | .character c index => s!"invalid character: found \x60{c}\x60 at {index}"
  | .length n => s!"invalid length: found {n}"
  | .groupCount n => s!"invalid group count: expected 5, found {n}"
  | .groupLength g expected n => s!"invalid group length in group {g}: expected {expected}, found {n}"

namespace Uuid

def nil : Uuid := ⟨Vector.replicate 32 ⟨0, by decide⟩⟩

def isNil (u : Uuid) : Bool := u == nil

def ofDigits? (cs : List Char) : Option Uuid :=
  match cs.mapM hexDigit? with
  | some ds => if h : ds.length = 32 then some ⟨⟨ds.toArray, by simpa using h⟩⟩ else none
  | none => none

def groups (cs : List Char) : List (List Char) :=
  [cs.take 8, (cs.drop 8).take 4, (cs.drop 12).take 4, (cs.drop 16).take 4, cs.drop 20]

def toText (u : Uuid) : String :=
  String.ofList (['-'].intercalate (groups (u.digits.toList.map hexChar)))

def ofGroups? (cs : List Char) : Option Uuid :=
  if cs.length = 36 ∧ [8, 13, 18, 23].all (fun i => cs[i]? = some '-') then
    ofDigits? (cs.take 8 ++ (cs.drop 9).take 4 ++ (cs.drop 14).take 4 ++ (cs.drop 19).take 4 ++ cs.drop 24)
  else none

def urnLead : List Char := "urn:uuid:".toList

def isUrn (cs : List Char) : Bool :=
  (cs.take urnLead.length).map Char.toLower == urnLead

inductive Shape where
  | bare (cs : List Char)
  | braced (inner : List Char)
  | urn (inner : List Char)

def Shape.of : List Char → Shape
  | '\x7b' :: rest =>
    if rest.getLast? = some '\x7d' then .braced rest.dropLast else .bare ('\x7b' :: rest)
  | cs => if isUrn cs then .urn (cs.drop urnLead.length) else .bare cs

def accepted? (cs : List Char) : Option Uuid :=
  match Shape.of cs with
  | .bare cs => if cs.length = 32 then ofDigits? cs else ofGroups? cs
  | .braced inner | .urn inner => ofGroups? inner

def groupedWidth : Nat := 36
def longest : Nat := urnLead.length + groupedWidth

def hyphenPlaces (cs : List Char) : List Nat :=
  (cs.zipIdx.filter fun c => c.1 = '-').map Prod.snd

def groupFault (size : Nat) (places : List Nat) : UuidFault :=
  let starts := [0, 9, 14, 19]
  let widths := [8, 4, 4, 4]
  match (places.zip (starts.zip widths)).zipIdx.find? fun g => g.1.1 ≠ g.1.2.1 + g.1.2.2 with
  | some ((place, start, width), g) => .groupLength g width (place - start)
  | none => .groupLength 4 12 (size - 24)

def faultWithin (cs : List Char) : UuidFault :=
  let size := byteCount cs
  let (inner, offset, bare) := match Shape.of cs with
    | .bare cs => (cs, 0, true)
    | .braced inner => (inner, 1, false)
    | .urn inner => (inner, urnLead.length, false)
  match inner.zipIdx.find? fun c => c.1 ≠ '-' && (hexDigit? c.1).isNone with
  | some (c, i) => .character c (i + offset)
  | none =>
    let places := hyphenPlaces inner
    if places.isEmpty && bare && size ≠ groupedWidth then .length size
    else if places.length ≠ 4 then .groupCount (places.length + 1)
    else groupFault size places

def faultOf (cs : List Char) : UuidFault :=
  if longest < byteCount cs then .length (byteCount cs)
  else match Shape.of cs with
    | .braced inner | .urn inner =>
      faultWithin (if byteCount inner = groupedWidth then inner else cs)
    | .bare _ => faultWithin cs

def read (s : String) : Except UuidFault Uuid :=
  match accepted? s.toList with
  | some u => .ok u
  | none => .error (faultOf s.toList)

def ofText? (s : String) : Option Uuid := accepted? s.toList

end Uuid

end PortfolioReports
