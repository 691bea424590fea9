import Mathlib.Algebra.Field.Rat
import Mathlib.Algebra.Order.Field.Rat
import Mathlib.Data.Option.NAry
import PortfolioReports.Numeric.Scalar

namespace PortfolioReports

namespace Scalar

variable (x y : ℚ)

@[simp] theorem whole_rat (n : ℕ) : (whole n : ℚ) = n := rfl

@[simp] theorem zero_rat : (zero : ℚ) = 0 := rfl

@[simp] theorem le_rat : le x y = decide (x ≤ y) := rfl

theorem le_eq_true {x y : ℚ} (h : x ≤ y) : le x y = true := decide_eq_true h

theorem le_eq_false {x y : ℚ} (h : y < x) : le x y = false := decide_eq_false h.not_ge

@[simp] theorem same_rat : same x y = decide (x = y) := by
  simp [same, le_antisymm_iff]

end Scalar

/-- A rational number, or nothing behind a quotient by zero. -/
structure Checked where
  value? : Option ℚ

namespace Checked

def of (x : ℚ) : Checked := ⟨some x⟩

def combine (op : ℚ → ℚ → ℚ) (a b : Checked) : Checked := ⟨Option.map₂ op a.value? b.value?⟩

def holds (relation : ℚ → ℚ → Bool) (a b : Checked) : Bool := (Option.map₂ relation a.value? b.value?).getD false

instance : Scalar Checked where
  add := combine (· + ·)
  sub := combine (· - ·)
  mul := combine (· * ·)
  div a b := if b.value? = some 0 then ⟨none⟩ else combine (· / ·) a b
  neg a := ⟨a.value?.map (- ·)⟩
  whole n := of (Scalar.whole n)
  decimal m e := of (Scalar.decimal m e)
  le := holds Scalar.le
  lt := holds Scalar.lt
  round a := ⟨a.value?.map Scalar.round⟩
  floor a := (a.value?.map Scalar.floor).getD 0
  sortsBefore := holds Scalar.sortsBefore
  fixed places a := (a.value?.map (Scalar.fixed places)).getD ""

variable (x y : ℚ)

@[simp] theorem of_add : of x + of y = of (x + y) := rfl

@[simp] theorem of_sub : of x - of y = of (x - y) := rfl

@[simp] theorem of_mul : of x * of y = of (x * y) := rfl

@[simp] theorem le_of : Scalar.le (of x) (of y) = Scalar.le x y := rfl

theorem of_div {y : ℚ} (h : y ≠ 0) : of x / of y = of (x / y) :=
  if_neg fun hzero => h (Option.some.inj hzero)

end Checked

end PortfolioReports
