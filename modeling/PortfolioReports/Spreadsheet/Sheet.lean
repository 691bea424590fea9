import PortfolioReports.Spreadsheet.Look
import PortfolioReports.Spreadsheet.Serial
import PortfolioReports.Text.Lowercase

namespace PortfolioReports

inductive SheetContent where
  | blank
  | flag (b : Bool)
  | number (x : Float)
  | serial (s : Serial)
  | text (s : String)

def cellTextLimit : Nat := 32767

def SheetContent.isTooLong : SheetContent → Bool
  | .text s => cellTextLimit < s.length
  | _ => false

structure SheetCell where
  content : SheetContent
  format : CellFormat

structure Position where
  row : UInt32
  column : UInt16
deriving DecidableEq, Repr

namespace Position

def before (p q : Position) : Bool := p.row < q.row || (p.row == q.row && p.column < q.column)

def rowLimit : Nat := 1048576
def columnLimit : Nat := 16384

def isOnSheet (p : Position) : Bool := p.row.toNat < rowLimit && p.column.toNat < columnLimit

end Position

structure Sheet where
  name : String
  /-- The last position first. -/
  cells : List (Position × SheetCell)
  widths : List (UInt16 × Float)
  filter? : Option Position
  frozen : Bool

namespace Sheet

def nameLimit : Nat := 31

def nameRefuses (c : Char) : Bool := "[]:*?/\\".toList.contains c

def checkName (name : String) : Except SheetFault Unit :=
  let cs := name.toList
  if cs.isEmpty then .error (.nameBlank name)
  else if nameLimit < cs.length then .error (.nameTooLong name)
  else if cs.any nameRefuses then .error (.nameCharacter name)
  else if cs.head? = some '\'' || cs.getLast? = some '\'' then .error (.nameApostrophe name)
  else .ok ()

def named (name : String) : Except SheetFault Sheet := (checkName name).map fun _ => ⟨name, [], [], none, false⟩

def empty : Sheet := ⟨"Sheet1", [], [], none, false⟩

def putCell (p : Position) (c : SheetCell) : List (Position × SheetCell) → List (Position × SheetCell)
  | [] => [(p, c)]
  | (q, d) :: rest =>
    if q.before p then (p, c) :: (q, d) :: rest
    else if q = p then (p, c) :: rest
    else (q, d) :: putCell p c rest

theorem lookup_entry (p q : Position) (c : SheetCell) (l : List (Position × SheetCell)) :
    ((p, c) :: l).lookup q = if q = p then some c else l.lookup q := by
  by_cases h : q = p
  · simp [h]
  · simp [List.lookup_cons, beq_eq_false_iff_ne.2 h, h]

theorem lookup_putCell (p q : Position) (c : SheetCell) (l : List (Position × SheetCell)) :
    (putCell p c l).lookup q = if q = p then some c else l.lookup q := by
  induction l with
  | nil => simp [putCell, lookup_entry]
  | cons e l ih =>
    obtain ⟨r, d⟩ := e
    simp only [putCell]
    split
    · simp [lookup_entry]
    · split
      · rename_i h
        subst h
        by_cases hq : q = r <;> simp [lookup_entry, hq]
      · rename_i h
        by_cases hq : q = r
        · subst hq
          simp [h]
        · simp [lookup_entry, hq, ih]

def cell? (s : Sheet) (p : Position) : Option SheetCell := s.cells.lookup p

def put (s : Sheet) (p : Position) (c : SheetCell) : Except SheetFault Sheet :=
  if !p.isOnSheet then .error .offSheet
  else if c.content.isTooLong then .error .textTooLong
  else .ok { s with cells := putCell p c s.cells }

def setWidth (s : Sheet) (column : UInt16) (width : Float) : Except SheetFault Sheet :=
  if column.toNat < Position.columnLimit then .ok { s with widths := (column, width) :: s.widths }
  else .error .offSheet

def setFilter (s : Sheet) (last : Position) : Except SheetFault Sheet :=
  if last.isOnSheet then .ok { s with filter? := some last } else .error .offSheet

end Sheet

end PortfolioReports
