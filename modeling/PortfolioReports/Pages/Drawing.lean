import PortfolioReports.Pages.Setup

/-!
Places are told in millimetres from the upper left corner of the page.
-/

namespace PortfolioReports

inductive Typeface where
  | regular
  | bold
  | italic
deriving DecidableEq, Repr

/-- A text that starts at `x` and stands on a baseline. -/
structure Label (α : Type) where
  x : α
  baseline : α
  face : Typeface
  size : Nat
  color : Rgb
  text : String

structure Box (α : Type) where
  x : α
  y : α
  width : α
  height : α
  fill : Rgb
  label : Label α

inductive Block (α : Type) where
  | line (l : Label α)
  | summaryEntry (key value : Label α)
  | headerRow (boxes : List (Box α))
  | dataRow (index : Nat) (boxes : List (Box α))
  | footer (l : Label α)

structure Canvas (α : Type) where
  done : List (List (Block α))
  current : List (Block α)
  y : α

namespace Canvas

variable {α : Type} [Scalar α]

def add (c : Canvas α) (b : Block α) : Canvas α := { c with current := c.current ++ [b] }

def down (c : Canvas α) (h : α) : Canvas α := { c with y := c.y + h }

def turn (c : Canvas α) (s : PageSetup α) : Canvas α := ⟨c.done ++ [c.current], [], s.margins.top⟩

def pages (c : Canvas α) : List (List (Block α)) := c.done ++ [c.current]

end Canvas

end PortfolioReports
