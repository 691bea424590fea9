import PortfolioReports.Json.Basic

namespace PortfolioReports.Json

structure Record where
  /-- Written as a list; fields without a default may then not be left out. -/
  positional : Bool
  fields : List (String × Json)

def record? (names : List String) : Json → Option Record
  | object fields =>
    let known := fields.filter fun f => names.contains f.1
    if (known.map Prod.fst).eraseDups.length = known.length then some ⟨false, known⟩ else none
  | list items => if items.length ≤ names.length then some ⟨true, names.zip items⟩ else none
  | _ => none

namespace Record

def get? (r : Record) (name : String) : Option Json := r.fields.lookup name

variable {α : Type}

def field (r : Record) (name : String) (read : Json → Option α) : Option α := (r.get? name).bind read

def fieldOr (r : Record) (name : String) (read : Json → Option α) (default : α) : Option α :=
  match r.get? name with
  | some j => read j
  | none => some default

def nullable (read : Json → Option α) : Json → Option (Option α)
  | null => some none
  | j => (read j).map some

def optional (r : Record) (name : String) (read : Json → Option α) : Option (Option α) :=
  match r.get? name with
  | some j => nullable read j
  | none => if r.positional then none else some none

def optionalOr (r : Record) (name : String) (read : Json → Option α) : Option (Option α) :=
  r.fieldOr name (nullable read) none

end Record

def asBool? : Json → Option Bool
  | bool b => some b
  | _ => none

def asText? : Json → Option String
  | text s => some s
  | _ => none

def asIntIn? (lo hi : Int) : Json → Option Int
  | int n => if lo ≤ n ∧ n ≤ hi then some n else none
  | _ => none

def asInt64? (j : Json) : Option Int64 :=
  (asIntIn? Int64.minValue.toInt Int64.maxValue.toInt j).map Int64.ofInt

def asInt32? (j : Json) : Option Int32 :=
  (asIntIn? Int32.minValue.toInt Int32.maxValue.toInt j).map Int32.ofInt

def asNat? (bits : Nat) (j : Json) : Option Nat := (asIntIn? 0 (Nat.pow 2 bits - 1) j).map Int.toNat

def asFloat? : Json → Option Float
  | float x => some x
  | int n => some (Float.ofInt n)
  | _ => none

def asList? {α : Type} (read : Json → Option α) : Json → Option (List α)
  | list items => items.mapM read
  | _ => none

def asEntries? {α : Type} (read : Json → Option α) : Json → Option (List (String × α))
  | object fields => (fields.mapM fun f => (read f.2).map fun v => (f.1, v)).map sortEntries
  | _ => none

def asName? {α : Type} (parse : String → Option α) : Json → Option α
  | text s => parse s
  | object [(k, null)] => parse k
  | _ => none

def within? {α : Type} (read : Json → Option α) (j : Json) : Option α := read (j.limited depthLimit)

end PortfolioReports.Json
