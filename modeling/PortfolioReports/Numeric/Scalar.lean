import PortfolioReports.Numeric.Layout

/-!
Programs compute in `Float`; the same formulas over `Rat` say what is computed when nothing is rounded.
-/

namespace PortfolioReports

class Scalar (α : Type) extends Add α, Sub α, Mul α, Div α, Neg α where
  whole : Nat → α
  decimal : Nat → Nat → α
  le : α → α → Bool
  lt : α → α → Bool
  round : α → α
  floor : α → Nat
  sortsBefore : α → α → Bool
  fixed : Nat → α → String

namespace Scalar

variable {α : Type} [Scalar α]

def zero : α := whole 0

def same (a b : α) : Bool := le a b && le b a

/-- The smaller one; a value that cannot be compared loses. -/
def min (a b : α) : α :=
  if lt a b then a else if le b a then b else if le a a then a else b

def max (a b : α) : α :=
  if lt b a then a else if le a b then b else if le a a then a else b

def clamp (lo hi a : α) : α :=
  if lt a lo then lo else if lt hi a then hi else a

def sum (l : List α) : α := l.foldl (· + ·) zero

end Scalar

/-- The key that orders floats totally: negative below positive, by magnitude, the undefined values
outermost. -/
def Float.orderKey (x : Float) : Int :=
  let b := x.toBits.toNat
  if b < UInt64.size / 2 then b else -((b - UInt64.size / 2 : Nat) : Int) - 1

instance : Scalar Float where
  whole n := Float.ofNat n
  decimal m e := Float.ofScientific m true e
  le a b := decide (a ≤ b)
  lt a b := decide (a < b)
  round := Float.round
  floor x := x.toUInt64.toNat
  sortsBefore a b := decide (Float.orderKey a ≤ Float.orderKey b)
  fixed := Numeric.fixed

def Rat.nearest (x : Rat) : Rat :=
  if x < 0 then -(((-x + 1 / 2 : Rat).floor : Int) : Rat) else (((x + 1 / 2 : Rat).floor : Int) : Rat)

instance : Scalar Rat where
  whole n := (n : Rat)
  decimal m e := (m : Rat) / (Nat.pow 10 e : Rat)
  le a b := decide (a ≤ b)
  lt a b := decide (a < b)
  round := Rat.nearest
  floor x := x.floor.toNat
  sortsBefore a b := decide (a ≤ b)
  fixed places x := (if x < 0 then "-" else "") ++
    Numeric.placesText places (Numeric.roundQuotient (x.num.natAbs * Nat.pow 10 places) x.den)

end PortfolioReports
