import PortfolioReports.Table.Cell

namespace PortfolioReports

structure Row where
  cells : List (String × Cell)
deriving Inhabited

namespace Row

def empty : Row := ⟨[]⟩

def insertCell (key : String) (cell : Cell) : List (String × Cell) → List (String × Cell)
  | [] => [(key, cell)]
  | (k, c) :: rest => if k = key then (k, cell) :: rest else (k, c) :: insertCell key cell rest

def insert (r : Row) (key : String) (cell : Cell) : Row := ⟨insertCell key cell r.cells⟩

def ofEntries (entries : List (String × Cell)) : Row :=
  entries.foldl (fun r e => r.insert e.1 e.2) empty

def get? (r : Row) (key : String) : Option Cell := r.cells.lookup key

def keys (r : Row) : List String := r.cells.map Prod.fst

def size (r : Row) : Nat := r.cells.length

def isEmpty (r : Row) : Bool := r.cells.isEmpty

def toJson (r : Row) : Json := .object (r.cells.map fun c => (c.1, c.2.toJson))

/-- The row of a JSON object; of repeated keys the first gives the place and the last the cell. -/
def ofJson? : Json → Option Row
  | .object fields => (fields.mapM fun f => (Cell.ofJson? f.2).map fun c => (f.1, c)).map ofEntries
  | _ => none

end Row

structure Column where
  key : String
  label : String
deriving DecidableEq, Repr

namespace Column

def ofKey (key : String) : Column := ⟨key, key⟩

def ofJson? (j : Json) : Option Column := do
  let r ← j.record? ["key", "label"]
  let key ← r.field "key" Json.asText?
  let label ← r.field "label" Json.asText?
  pure ⟨key, label⟩

def toJson (c : Column) : Json := .object [("key", .text c.key), ("label", .text c.label)]

def ofRow (r : Row) : List Column := r.keys.map ofKey

/-- The declared columns, or those of the first row where none are declared. -/
def resolve (columns : List Column) (rows : List Row) : List Column :=
  if columns.isEmpty then (rows.head?.map ofRow).getD [] else columns

end Column

end PortfolioReports
