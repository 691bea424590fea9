import PortfolioReports.Numeric.Layout
import PortfolioReports.Spreadsheet.Setup
import PortfolioReports.Text.Hex
import PortfolioReports.Text.Width

namespace PortfolioReports

inductive CellFormat where
  | plain
  | label
  | text
  | number
  | date
  | moment
deriving DecidableEq, Repr

structure Shade where
  code : Fin 0x1000000
deriving DecidableEq, Repr

def Shade.ofNat? (n : Nat) : Option Shade := if h : n < 0x1000000 then some ⟨⟨n, h⟩⟩ else none

def Shade.toText (c : Shade) : String :=
  "FF" ++ (Text.padLeft 6 (Text.hexText c.code.val) '0').toUpper

inductive Border where
  | none
  | thin (color? : Option Shade)
deriving DecidableEq, Repr

structure Look where
  bold : Bool
  italic : Bool
  fontSize : String
  fontColor? : Option Shade
  fill? : Option Shade
  centered : Bool
  border : Border
  numberFormat : String
deriving DecidableEq, Repr

namespace Look

def plain : Look := ⟨false, false, "11", none, none, false, .none, "General"⟩

def withNumberFormat (l : Look) (format : String) : Look :=
  if format.isEmpty then l else { l with numberFormat := format }

end Look

def borderOf (bordered : Bool) (color : Nat) : Border := if bordered then .thin (Shade.ofNat? color) else .none

def LabelStyle.look (s : LabelStyle) : Look where
  bold := s.bold
  italic := s.italic
  fontSize := Numeric.plain.render s.fontSize
  fontColor? := Shade.ofNat? s.fontColor
  fill? := Shade.ofNat? s.fillColor
  centered := s.centered
  border := borderOf s.bordered s.borderColor
  numberFormat := "General"

def DataStyle.look (s : DataStyle) : Look := { Look.plain with border := borderOf s.bordered s.borderColor }

def WorkbookSetup.look (s : WorkbookSetup) : CellFormat → Look
  | .plain => .plain
  | .label => s.labels.look
  | .text => s.data.look
  | .number => s.data.look.withNumberFormat (s.data.numberFormat?.getD "")
  | .date => s.data.look.withNumberFormat s.dateFormat
  | .moment => s.data.look.withNumberFormat s.momentFormat

end PortfolioReports
