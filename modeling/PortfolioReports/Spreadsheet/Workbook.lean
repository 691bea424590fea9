import PortfolioReports.Spreadsheet.Sheet
import PortfolioReports.Table.Row

namespace PortfolioReports

open Calendar

structure NamedTable where
  name : String
  columns : List Column
  rows : List Row

structure Workbook where
  created : Serial
  look : CellFormat → Look
  sheets : List Sheet

namespace SheetCell

def ofText (format : CellFormat) (s : String) : SheetCell :=
  if s.isEmpty then ⟨.blank, format⟩ else ⟨.text s, format⟩

/-- An undefined number is written as an error text without a format. -/
def ofFloat (x : Float) : SheetCell := if x.isNaN then ⟨.text "#NUM!", .plain⟩ else ⟨.number x, .number⟩

def ofCell : Cell → Except SheetFault SheetCell
  | .null => .ok ⟨.blank, .text⟩
  | .bool b => .ok ⟨.flag b, .text⟩
  | .int n => .ok (ofFloat (Float.ofInt n.toInt))
  | .float x => .ok (ofFloat x)
  | .text s => .ok (ofText .text s)
  | .date d => (Serial.ofMoment ⟨d, .midnight⟩).map fun s => ⟨.serial s, .date⟩
  | .moment m => (Serial.ofMoment m).map fun s => ⟨.serial s, .moment⟩
  | .list items => .ok (ofText .text (Cell.list items).display)

end SheetCell

namespace Sheet

def putRow (row : UInt32) : Nat → List SheetCell → Sheet → Except SheetFault Sheet
  | _, [], s => .ok s
  | j, c :: cs, s => do
    let s ← s.put ⟨row, UInt16.ofNat j⟩ c
    putRow row (j + 1) cs s

def putRecord (row : UInt32) (columns : List Column) (r : Row) (s : Sheet) : Except SheetFault Sheet := do
  let cells ← columns.mapM fun c => SheetCell.ofCell ((r.get? c.key).getD .null)
  s.putRow row 0 cells

def putRecords (columns : List Column) : UInt32 → List Row → Sheet → Except SheetFault Sheet
  | _, [], s => .ok s
  | row, r :: rs, s => do
    let s ← s.putRecord row columns r
    putRecords columns (row + 1) rs s

def setWidths : Nat → List Float → Sheet → Except SheetFault Sheet
  | _, [], s => .ok s
  | j, w :: ws, s => do
    let s ← s.setWidth (UInt16.ofNat j) w
    setWidths (j + 1) ws s

def lastOf (columns : List Column) (rows : List Row) : Position :=
  ⟨UInt32.ofNat rows.length, UInt16.ofNat (columns.length - 1)⟩

def fill (setup : WorkbookSetup) (s : Sheet) (columns : List Column) (rows : List Row) :
    Except SheetFault Sheet :=
  let columns := Column.resolve columns rows
  if columns.isEmpty then .ok s
  else do
    let s ← if setup.includeHeader then
        s.putRow 0 0 (columns.map fun c => SheetCell.ofText .label c.label)
      else pure s
    let s ← putRecords columns (if setup.includeHeader then 1 else 0) rows s
    let s ← setWidths 0 (columns.map fun c => setup.widthOf c.key) s
    let s ← if setup.includeHeader && setup.filterRows && !rows.isEmpty then
        s.setFilter (lastOf columns rows)
      else pure s
    pure { s with frozen := setup.includeHeader && setup.freezeHeader }

end Sheet

namespace WorkbookSetup

def sheetOf (setup : WorkbookSetup) (t : NamedTable) : Except SheetFault Sheet := do
  let s ← Sheet.named t.name
  s.fill setup t.columns t.rows

def reusedName? : List String → Option String
  | [] => none
  | n :: ns =>
    match ns.find? fun m => Text.smallLetters m == Text.smallLetters n with
    | some m => some m
    | none => reusedName? ns

def assemble (setup : WorkbookSetup) (tables : List NamedTable) : Except SheetFault Workbook := do
  let created ← Serial.ofMoment setup.stamp
  let sheets ← tables.mapM setup.sheetOf
  match reusedName? (sheets.map Sheet.name) with
  | some name => .error (.nameReused name)
  | none => pure ⟨created, setup.look, if sheets.isEmpty then [.empty] else sheets⟩

def workbook (setup : WorkbookSetup) (tables : List NamedTable) : Except Fault Workbook :=
  match setup.assemble tables with
  | .ok w => .ok w
  | .error cause => .error (.render (.sheet cause))

def singleSheet (setup : WorkbookSetup) (rows : List Row) (columns : List Column) :
    Except Fault Workbook :=
  setup.workbook [⟨setup.sheetName, columns, rows⟩]

end WorkbookSetup

end PortfolioReports
