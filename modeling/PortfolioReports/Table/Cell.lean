import PortfolioReports.Calendar.Reading
import PortfolioReports.Json.Record
import PortfolioReports.Numeric.Layout

/-!
JSON has no dates, so they are written as texts, and no undefined or infinite numbers, so those are written as `null`.
-/

namespace PortfolioReports

open Calendar

inductive Cell where
  | null
  | bool (b : Bool)
  | int (n : Int64)
  | float (x : Float)
  | text (s : String)
  | date (d : Date)
  | moment (m : Moment)
  | list (items : List Cell)
deriving Inhabited

namespace Cell

def kind : Cell → String
  | null => "null"
  | bool _ => "bool"
  | int _ => "int"
  | float _ => "float"
  | text _ => "text"
  | date _ => "date"
  | moment _ => "datetime"
  | list _ => "list"

def isNull : Cell → Bool
  | null => true
  | _ => false

def asFloat? : Cell → Option Float
  | int n => some (Float.ofInt n.toInt)
  | float x => some x
  | _ => none

def asText? : Cell → Option String
  | text s => some s
  | _ => none

def asList? : Cell → Option (List Cell)
  | list items => some items
  | _ => none

mutual

def display : Cell → String
  | null => ""
  | bool b => if b then "true" else "false"
  | int n => toString n.toInt
  | float x => Numeric.plain.render x
  | text s => s
  | date d => dateText d
  | moment m => momentText " " m
  | list items => ", ".intercalate (displayAll items)

def displayAll : List Cell → List String
  | [] => []
  | c :: cs => c.display :: displayAll cs

end

mutual

def toJson : Cell → Json
  | null => .null
  | bool b => .bool b
  | int n => .int n.toInt
  | float x => .ofFloat x
  | text s => .text s
  | date d => .text (dateText d)
  | moment m => .text (momentText "T" m)
  | list items => .list (toJsonAll items)

def toJsonAll : List Cell → List Json
  | [] => []
  | c :: cs => c.toJson :: toJsonAll cs

end

mutual

/-- The cell of a JSON value. An integer beyond 64 bits with sign becomes a float; an object is no
cell. -/
def ofJson? : Json → Option Cell
  | .null => some null
  | .bool b => some (bool b)
  | .int n =>
    if Int64.minValue.toInt ≤ n ∧ n ≤ Int64.maxValue.toInt then some (int (Int64.ofInt n))
    else some (float (Float.ofInt n))
  | .float x => some (float x)
  | .text s => some (text s)
  | .list items => (ofJsonAll? items).map list
  | .object _ => none
  | .unreadable => none

def ofJsonAll? : List Json → Option (List Cell)
  | [] => some []
  | j :: js => do
    let c ← ofJson? j
    let cs ← ofJsonAll? js
    pure (c :: cs)

end

mutual

/-- What is left of a cell once it has been written as JSON: dates as texts, nothing where a number
is not finite. -/
def erase : Cell → Cell
  | float x => if x.isFinite then float x else null
  | date d => text (dateText d)
  | moment m => text (momentText "T" m)
  | list items => list (eraseAll items)
  | c => c

def eraseAll : List Cell → List Cell
  | [] => []
  | c :: cs => c.erase :: eraseAll cs

end

end Cell

end PortfolioReports
