import PortfolioReports.Json.Basic
import PortfolioReports.Spreadsheet.SharedText
import PortfolioReports.Spreadsheet.Workbook

namespace PortfolioReports

open Json

def columnLetters (n : Nat) : String :=
  let last := String.ofList [Char.ofNat (65 + n % 26)]
  if n < 26 then last else columnLetters (n / 26 - 1) ++ last
termination_by n

def Position.toText (p : Position) : String := columnLetters p.column.toNat ++ toString (p.row.toNat + 1)

namespace SheetContent

def outline : SheetContent → String × Option String
  | blank => ("blank", none)
  | flag b => ("b", some (if b then "1" else "0"))
  | number x => ("n", some (Numeric.plain.render x))
  | serial s => ("n", some (Numeric.plain.render s.toFloat))
  | text s => ("s", some (SharedText.shown s))

def isBlank : SheetContent → Bool
  | blank => true
  | _ => false

end SheetContent

namespace Look

def borderJson : Border → Json
  | .none => .object []
  | .thin color? =>
    let side : Json := .list [.text "thin", .text ((color?.map Shade.toText).getD "")]
    .object [("left", side), ("right", side), ("top", side), ("bottom", side)]

def toJson (l : Look) : Json := .object
  [("align", if l.centered then .text "center" else .null), ("border", borderJson l.border),
   ("fill", ofOption (fun c => .text c.toText) l.fill?),
   ("font", .object
     [("bold", .bool l.bold), ("italic", .bool l.italic), ("size", .text l.fontSize),
      ("color", .text ((l.fontColor?.map Shade.toText).getD "theme1"))]),
   ("num_format", .text l.numberFormat)]

end Look

def widthLimit : Float := 255.0

def widthOutline (w : Float) : String × Bool :=
  if w == 0.0 then (Numeric.plain.render w, true)
  else if w < 0.0 then (Numeric.plain.render w, false)
  else
    let w := if widthLimit < w then widthLimit else w
    let pixels := if w < 1.0 then (w * 12.0).round else (w * 7.0).round + 5.0
    (Numeric.plain.render ((pixels / 7.0 * 256.0).floor / 256.0), false)

namespace Workbook

def shown (w : Workbook) (s : Sheet) : List (Position × SheetCell) :=
  s.cells.reverse.filter fun c => !(c.2.content.isBlank && w.look c.2.format == .plain)

def looks (w : Workbook) : List Look :=
  let formats := (w.sheets.flatMap fun s => (w.shown s).map fun c => c.2.format).eraseDups
  (formats.map w.look).eraseDups

def cellJson (w : Workbook) (looks : List Look) (c : Position × SheetCell) : Json :=
  let (kind, value?) := c.2.content.outline
  .list [.text c.1.toText, .text kind, ofOption .text value?, ofNat (looks.idxOf (w.look c.2.format))]

def widthJson (c : UInt16 × Float) : Json :=
  let (width, hidden) := widthOutline c.2
  .list [ofNat (c.1.toNat + 1), .text width, .bool hidden]

def sheetJson (w : Workbook) (looks : List Look) (s : Sheet) : Json := .object
  [("name", .text s.name), ("cells", .list ((w.shown s).map (w.cellJson looks))),
   ("cols", .list (s.widths.reverse.map widthJson)),
   ("auto_filter", ofOption (fun p => .text ("A1:" ++ p.toText)) s.filter?),
   ("pane", if s.frozen then .list [.null, .text "1", .text "A2"] else .null)]

def outline (w : Workbook) : Json :=
  let looks := w.looks
  .object
    [("created", .text w.created.toText),
     ("sheets", .list (w.sheets.map (w.sheetJson looks))), ("styles", .list (looks.map Look.toJson))]

end Workbook

end PortfolioReports
