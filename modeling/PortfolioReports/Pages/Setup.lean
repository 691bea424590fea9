import PortfolioReports.Json.Typed
import PortfolioReports.Numeric.Scalar

namespace PortfolioReports

open Calendar Scalar

structure Rgb where
  red : Nat
  green : Nat
  blue : Nat
deriving DecidableEq, Repr

inductive PageSize where
  | a4
  | letter
  | legal
deriving DecidableEq, Repr

inductive Orientation where
  | portrait
  | landscape
deriving DecidableEq, Repr

instance : Vocabulary PageSize where
  title := "page size"
  all := [.a4, .letter, .legal]
  name
    | .a4 => "A4"
    | .letter => "Letter"
    | .legal => "Legal"
  find?_name a := by cases a <;> decide

instance : Vocabulary Orientation where
  title := "orientation"
  all := [.portrait, .landscape]
  name
    | .portrait => "portrait"
    | .landscape => "landscape"
  find?_name a := by cases a <;> decide

structure Margins (α : Type) where
  top : α
  bottom : α
  left : α
  right : α

structure PageSetup (α : Type) where
  size : PageSize
  orientation : Orientation
  margins : Margins α
  includeHeader : Bool
  includeFooter : Bool
  title : String
  subtitle? : Option String
  generatedAt? : Option Moment
  headerColor : Rgb
  alternateColor? : Option Rgb

variable {α : Type} [Scalar α]

def PageSize.upright : PageSize → α × α
  | .a4 => (whole 210, whole 297)
  | .letter => (decimal 2159 1, decimal 2794 1)
  | .legal => (decimal 2159 1, decimal 3556 1)

def Margins.standard : Margins α := ⟨whole 15, whole 15, whole 10, whole 10⟩

namespace PageSetup

def standard : PageSetup α where
  size := .a4
  orientation := .landscape
  margins := .standard
  includeHeader := true
  includeFooter := true
  title := ""
  subtitle? := none
  generatedAt? := none
  headerColor := ⟨68, 114, 196⟩
  alternateColor? := some ⟨245, 245, 245⟩

def dimensions (s : PageSetup α) : α × α :=
  match s.orientation with
  | .portrait => s.size.upright
  | .landscape => (s.size.upright : α × α).swap

def width (s : PageSetup α) : α := s.dimensions.1

def height (s : PageSetup α) : α := s.dimensions.2

def printableWidth (s : PageSetup α) : α := s.width - s.margins.left - s.margins.right

end PageSetup

section Reading

open Json

def Rgb.ofJson? : Json → Option Rgb
  | .list [r, g, b] => do
    let r ← asNat? 8 r
    let g ← asNat? 8 g
    let b ← asNat? 8 b
    pure ⟨r, g, b⟩
  | _ => none

def Rgb.toJson (c : Rgb) : Json := .list [ofNat c.red, ofNat c.green, ofNat c.blue]

def Margins.ofJson? (j : Json) : Option (Margins Float) := do
  let r ← j.record? ["top", "bottom", "left", "right"]
  let top ← r.field "top" asFloat?
  let bottom ← r.field "bottom" asFloat?
  let left ← r.field "left" asFloat?
  let right ← r.field "right" asFloat?
  pure ⟨top, bottom, left, right⟩

def Margins.toJson (m : Margins Float) : Json := .object
  [("top", ofFloat m.top), ("bottom", ofFloat m.bottom), ("left", ofFloat m.left),
   ("right", ofFloat m.right)]

namespace PageSetup

def ofJson? (j : Json) : Option (PageSetup Float) := do
  let r ← j.record?
    ["page_size", "orientation", "margins", "include_header", "include_footer", "title", "subtitle",
     "generated_at", "header_color", "alternate_row_color"]
  let d : PageSetup Float := standard
  let size ← r.fieldOr "page_size" asWord? d.size
  let orientation ← r.fieldOr "orientation" asWord? d.orientation
  let margins ← r.fieldOr "margins" Margins.ofJson? d.margins
  let includeHeader ← r.fieldOr "include_header" asBool? d.includeHeader
  let includeFooter ← r.fieldOr "include_footer" asBool? d.includeFooter
  let title ← r.fieldOr "title" asText? d.title
  let subtitle? ← r.optionalOr "subtitle" asText?
  let generatedAt? ← r.optionalOr "generated_at" asLocal?
  let headerColor ← r.fieldOr "header_color" Rgb.ofJson? d.headerColor
  let alternateColor? ← r.fieldOr "alternate_row_color" (Record.nullable Rgb.ofJson?) d.alternateColor?
  pure ⟨size, orientation, margins, includeHeader, includeFooter, title, subtitle?, generatedAt?,
    headerColor, alternateColor?⟩

def toJson (s : PageSetup Float) : Json := .object
  [("page_size", ofWord s.size), ("orientation", ofWord s.orientation), ("margins", s.margins.toJson),
   ("include_header", .bool s.includeHeader), ("include_footer", .bool s.includeFooter),
   ("title", .text s.title), ("subtitle", ofOption .text s.subtitle?),
   ("generated_at", ofOption ofLocal s.generatedAt?), ("header_color", s.headerColor.toJson),
   ("alternate_row_color", ofOption Rgb.toJson s.alternateColor?)]

end PageSetup

end Reading

end PortfolioReports
