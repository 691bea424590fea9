import PortfolioReports.Pages.Drawing
import PortfolioReports.Table.Row
import PortfolioReports.Text.Width

namespace PortfolioReports

open Calendar Scalar

variable {α : Type} [Scalar α]

def maxCellChars : Nat := 50

def truncate (n : Nat) (s : String) : String :=
  if n < s.length then Text.takeChars (n - 3) s ++ "..." else s

def minuteText (m : Moment) : String :=
  dateText m.date ++ " " ++ Text.zeroPadded 2 m.clock.hour ++ ":" ++ Text.zeroPadded 2 m.clock.minute

def Cell.printed : Cell → String
  | .null => ""
  | .bool b => if b then "Yes" else "No"
  | .int n => toString n.toInt
  | .float x => Numeric.fixed 2 x
  | .text s => truncate maxCellChars s
  | .date d => dateText d
  | .moment m => minuteText m
  | .list items => truncate maxCellChars (Cell.list items).display

def pointsPerMm : α := whole 72 / decimal 254 1

def half : α := decimal 5 1

def cellPadding : α := decimal 15 1

def headerRowHeight : α := whole 8

def dataRowHeight : α := whole 7

def minColumnWidth : α := whole 15

def maxColumnWidth : α := whole 60

def textWidth (chars size : Nat) : α := whole chars * whole size * half / pointsPerMm

def charsThatFit (width : α) (size : Nat) : Nat :=
  floor ((width - whole 2 * cellPadding) / (whole size * half / pointsPerMm))

/-- A text cut to the width of a column; it is left whole where fewer than four characters fit. -/
def fitToWidth (s : String) (width : α) (size : Nat) : String :=
  let n := charsThatFit width size
  if s.length ≤ n ∨ n < 4 then s else truncate n s

def wantedWidth (label : String) (cells : List String) : α :=
  cells.foldl (fun w s => max w (whole s.length * whole 2)) (whole label.length * decimal 25 1)

def columnTexts (rows : List (List String)) (i : Nat) : List String := rows.filterMap fun r => r[i]?

/-- Widths in proportion to what the columns ask for, each held between the bounds. -/
def columnWidths (labels : List String) (rows : List (List String)) (available : α) : List α :=
  let wanted : List α := labels.zipIdx.map fun l => wantedWidth l.1 (columnTexts rows l.2)
  let total := sum wanted
  let scale := if lt zero total then available / total else whole 1
  wanted.map fun w => clamp minColumnWidth maxColumnWidth (w * scale)

def black : Rgb := ⟨0, 0, 0⟩
def white : Rgb := ⟨255, 255, 255⟩
def darkGray : Rgb := ⟨100, 100, 100⟩
def gray : Rgb := ⟨128, 128, 128⟩

def leftEdges (x : α) : List α → List α
  | [] => []
  | w :: ws => x :: leftEdges (x + w) ws

def boxesOf (left : α) (widths : List α) (texts : List String) (box : α → α → String → Box α) :
    List (Box α) :=
  ((leftEdges left widths).zip (widths.zip texts)).map fun p => box p.1 p.2.1 p.2.2

def headerBox (s : PageSetup α) (y x width : α) (text : String) : Box α :=
  let label := fitToWidth text width 9
  let indent := max ((width - textWidth label.length 9) / whole 2) cellPadding
  ⟨x, y, width, headerRowHeight, s.headerColor,
    ⟨x + indent, y + headerRowHeight / whole 2 + decimal 12 1, .bold, 9, white, label⟩⟩

def dataBox (fill : Rgb) (y x width : α) (text : String) : Box α :=
  ⟨x, y, width, dataRowHeight, fill,
    ⟨x + cellPadding, y + dataRowHeight / whole 2 + whole 1, .regular, 8, black,
      fitToWidth text width 8⟩⟩

def rowFill (s : PageSetup α) (index : Nat) : Rgb :=
  match s.alternateColor? with
  | some c => if index % 2 = 1 then c else white
  | none => white

structure TableFrame (α : Type) where
  labels : List String
  widths : List α

namespace Canvas

def isFull (c : Canvas α) (s : PageSetup α) : Bool := lt (s.height - whole 20) c.y

def breakUnless (c : Canvas α) (s : PageSetup α) (needed : α) : Canvas α :=
  if lt (s.height - whole 20) (c.y + needed) then c.turn s else c

def textLine (c : Canvas α) (s : PageSetup α) (text : String) (face : Typeface) (size : Nat)
    (color : Rgb) (height : α) : Canvas α :=
  let baseline := c.y + height / whole 2 + whole size * decimal 35 2 / pointsPerMm
  let c := if text.isEmpty then c else c.add (.line ⟨s.margins.left, baseline, face, size, color, text⟩)
  c.down height

def headerRow (c : Canvas α) (s : PageSetup α) (t : TableFrame α) : Canvas α :=
  (c.add (.headerRow (boxesOf s.margins.left t.widths t.labels (headerBox s c.y)))).down headerRowHeight

def dataRow (c : Canvas α) (s : PageSetup α) (t : TableFrame α) (index : Nat) (texts : List String) :
    Canvas α :=
  (c.add (.dataRow index (boxesOf s.margins.left t.widths texts (dataBox (rowFill s index) c.y)))).down
    dataRowHeight

def dataRows (s : PageSetup α) (t : TableFrame α) (c : Canvas α) : Nat → List (List String) → Canvas α
  | _, [] => c
  | i, texts :: rest =>
    let c := c.dataRow s t i texts
    let c := if c.isFull s then (c.turn s).headerRow s t else c
    dataRows s t c (i + 1) rest

def table (c : Canvas α) (s : PageSetup α) (rows : List Row) (columns : List Column) : Canvas α :=
  let columns := Column.resolve columns rows
  if columns.isEmpty then c
  else
    let texts := rows.map fun r => columns.map fun col => ((r.get? col.key).map Cell.printed).getD ""
    let labels := columns.map Column.label
    let t : TableFrame α := ⟨labels, columnWidths labels texts s.printableWidth⟩
    dataRows s t (c.headerRow s t) 0 texts

def summaryEntries (s : PageSetup α) (c : Canvas α) : Nat → List (String × Cell) → Canvas α
  | col, [] => if col = 0 then c else c.down (whole 6)
  | col, (key, value) :: rest =>
    let labelWidth := s.printableWidth * decimal 3 1
    let valueWidth := s.printableWidth * decimal 2 1
    let x := s.margins.left + whole col * (labelWidth + valueWidth)
    let baseline := c.y + whole 4
    let c := c.add (.summaryEntry ⟨x, baseline, .regular, 10, darkGray, key ++ ":"⟩
      ⟨x + labelWidth, baseline, .regular, 10, black, value.printed⟩)
    if col = 0 then summaryEntries s c 1 rest else summaryEntries s (c.down (whole 6)) 0 rest

def summary (c : Canvas α) (s : PageSetup α) (r : Row) : Canvas α :=
  let c := c.textLine s "Summary" .bold 12 black (whole 8)
  (summaryEntries s c 0 r.cells).down (whole 5)

end Canvas

structure ReportSection where
  title : String
  description? : Option String
  columns : List Column
  rows : List Row

namespace PageSetup

def begin (s : PageSetup α) : Canvas α :=
  let c : Canvas α := ⟨[], [], s.margins.top⟩
  if s.includeHeader then
    let c := c.textLine s s.title .bold 20 black (whole 12)
    let c := match s.subtitle? with
      | some t => c.textLine s t .regular 12 darkGray (whole 8)
      | none => c
    let c := match s.generatedAt? with
      | some m => c.textLine s ("Generated: " ++ minuteText m) .regular 10 gray (whole 6)
      | none => c
    c.down (whole 8)
  else c

def footer (s : PageSetup α) (number total : Nat) : Block α :=
  let text := s!"Page {number} of {total}"
  .footer ⟨(s.width - textWidth text.length 8) / whole 2, s.height - whole 6, .italic, 8, gray, text⟩

def finish (s : PageSetup α) (c : Canvas α) : List (List (Block α)) :=
  if s.includeFooter then
    c.pages.zipIdx.map fun p => p.1 ++ [s.footer (p.2 + 1) c.pages.length]
  else c.pages

def tablePages (s : PageSetup α) (rows : List Row) (columns : List Column) : List (List (Block α)) :=
  s.finish (s.begin.table s rows columns)

def summaryPages (s : PageSetup α) (summary : Row) (rows : List Row) (columns : List Column) :
    List (List (Block α)) :=
  s.finish ((s.begin.summary s summary).table s rows columns)

def addSection (s : PageSetup α) (c : Canvas α) (part : ReportSection) : Canvas α :=
  let c := (c.breakUnless s (whole 10)).textLine s part.title .bold 14 black (whole 10)
  let c := match part.description? with
    | some d => if d.isEmpty then c else (c.textLine s d .regular 10 darkGray (whole 5)).down (whole 3)
    | none => c
  if part.rows.isEmpty then c else c.table s part.rows part.columns

def addSections (s : PageSetup α) (c : Canvas α) : List ReportSection → Canvas α
  | [] => c
  | [part] => s.addSection c part
  | part :: rest => s.addSections ((s.addSection c part).down (whole 10)) rest

def sectionPages (s : PageSetup α) (parts : List ReportSection) : List (List (Block α)) :=
  s.finish (s.addSections s.begin parts)

end PageSetup

end PortfolioReports
