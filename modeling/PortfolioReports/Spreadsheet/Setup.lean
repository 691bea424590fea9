import PortfolioReports.Json.Typed

namespace PortfolioReports

open Calendar

structure LabelStyle where
  bold : Bool
  italic : Bool
  fontSize : Float
  fontColor : Nat
  fillColor : Nat
  centered : Bool
  bordered : Bool
  borderColor : Nat

structure DataStyle where
  bordered : Bool
  borderColor : Nat
  numberFormat? : Option String

structure WorkbookSetup where
  sheetName : String
  includeHeader : Bool
  labels : LabelStyle
  data : DataStyle
  defaultWidth : Float
  widths : List (String × Float)
  filterRows : Bool
  freezeHeader : Bool
  dateFormat : String
  momentFormat : String
  createdAt? : Option Moment

def LabelStyle.standard : LabelStyle := ⟨true, false, 11.0, 0xFFFFFF, 0x4472C4, true, true, 0⟩

def DataStyle.standard : DataStyle := ⟨true, 0xD3D3D3, none⟩

namespace WorkbookSetup

def standard : WorkbookSetup where
  sheetName := "Report"
  includeHeader := true
  labels := .standard
  data := .standard
  defaultWidth := 15.0
  widths := []
  filterRows := true
  freezeHeader := true
  dateFormat := "yyyy-mm-dd"
  momentFormat := "yyyy-mm-dd hh:mm:ss"
  createdAt? := none

def defaultStamp : Moment := ⟨⟨10957⟩, .midnight⟩

def stamp (s : WorkbookSetup) : Moment := s.createdAt?.getD defaultStamp

def widthOf (s : WorkbookSetup) (key : String) : Float := (s.widths.lookup key).getD s.defaultWidth

end WorkbookSetup

section Reading

open Json

def LabelStyle.ofJson? (j : Json) : Option LabelStyle := do
  let r ← j.record?
    ["bold", "italic", "font_size", "font_color", "fill_color", "center", "border", "border_color"]
  let d := standard
  let bold ← r.fieldOr "bold" asBool? d.bold
  let italic ← r.fieldOr "italic" asBool? d.italic
  let fontSize ← r.fieldOr "font_size" asFloat? d.fontSize
  let fontColor ← r.fieldOr "font_color" (asNat? 32) d.fontColor
  let fillColor ← r.fieldOr "fill_color" (asNat? 32) d.fillColor
  let centered ← r.fieldOr "center" asBool? d.centered
  let bordered ← r.fieldOr "border" asBool? d.bordered
  let borderColor ← r.fieldOr "border_color" (asNat? 32) d.borderColor
  pure ⟨bold, italic, fontSize, fontColor, fillColor, centered, bordered, borderColor⟩

def LabelStyle.toJson (s : LabelStyle) : Json := .object
  [("bold", .bool s.bold), ("italic", .bool s.italic), ("font_size", ofFloat s.fontSize),
   ("font_color", ofNat s.fontColor), ("fill_color", ofNat s.fillColor), ("center", .bool s.centered),
   ("border", .bool s.bordered), ("border_color", ofNat s.borderColor)]

def DataStyle.ofJson? (j : Json) : Option DataStyle := do
  let r ← j.record? ["border", "border_color", "number_format"]
  let bordered ← r.fieldOr "border" asBool? standard.bordered
  let borderColor ← r.fieldOr "border_color" (asNat? 32) standard.borderColor
  let numberFormat? ← r.optionalOr "number_format" asText?
  pure ⟨bordered, borderColor, numberFormat?⟩

def DataStyle.toJson (s : DataStyle) : Json := .object
  [("border", .bool s.bordered), ("border_color", ofNat s.borderColor),
   ("number_format", ofOption .text s.numberFormat?)]

namespace WorkbookSetup

def ofJson? (j : Json) : Option WorkbookSetup := do
  let r ← j.record?
    ["sheet_name", "include_header", "header_style", "data_style", "default_column_width",
     "column_widths", "auto_filter", "freeze_header", "date_format", "datetime_format", "created_at"]
  let d := standard
  let sheetName ← r.fieldOr "sheet_name" asText? d.sheetName
  let includeHeader ← r.fieldOr "include_header" asBool? d.includeHeader
  let labels ← r.fieldOr "header_style" LabelStyle.ofJson? d.labels
  let data ← r.fieldOr "data_style" DataStyle.ofJson? d.data
  let defaultWidth ← r.fieldOr "default_column_width" asFloat? d.defaultWidth
  let widths ← r.fieldOr "column_widths" (asEntries? asFloat?) d.widths
  let filterRows ← r.fieldOr "auto_filter" asBool? d.filterRows
  let freezeHeader ← r.fieldOr "freeze_header" asBool? d.freezeHeader
  let dateFormat ← r.fieldOr "date_format" asText? d.dateFormat
  let momentFormat ← r.fieldOr "datetime_format" asText? d.momentFormat
  let createdAt? ← r.optionalOr "created_at" asLocal?
  pure ⟨sheetName, includeHeader, labels, data, defaultWidth, widths, filterRows, freezeHeader,
    dateFormat, momentFormat, createdAt?⟩

def toJson (s : WorkbookSetup) : Json := .object
  [("sheet_name", .text s.sheetName), ("include_header", .bool s.includeHeader),
   ("header_style", s.labels.toJson), ("data_style", s.data.toJson),
   ("default_column_width", ofFloat s.defaultWidth),
   ("column_widths", .object (s.widths.map fun w => (w.1, ofFloat w.2))),
   ("auto_filter", .bool s.filterRows), ("freeze_header", .bool s.freezeHeader),
   ("date_format", .text s.dateFormat), ("datetime_format", .text s.momentFormat),
   ("created_at", ofOption ofLocal s.createdAt?)]

end WorkbookSetup

end Reading

end PortfolioReports
