/-!
All comparisons are made on naturals, so nothing is rounded on the way.
-/

namespace PortfolioReports.Numeric

structure Decimal where
  digits : Nat
  exponent : Int
deriving Repr, DecidableEq

structure Binary where
  significand : Nat
  exponent : Int
  narrowBelow : Bool
deriving Repr, DecidableEq

structure BinaryFormat where
  fractionBits : Nat
  exponentBits : Nat

def binary64 : BinaryFormat := ⟨52, 11⟩
def binary32 : BinaryFormat := ⟨23, 8⟩

inductive BinaryValue where
  | finite (negative : Bool) (magnitude : Binary)
  | infinite (negative : Bool)
  | undefined

namespace BinaryFormat

def bias (f : BinaryFormat) : Nat := Nat.pow 2 (f.exponentBits - 1) - 1

def decode (f : BinaryFormat) (bits : Nat) : BinaryValue :=
  let fraction := bits % Nat.pow 2 f.fractionBits
  let e := bits / Nat.pow 2 f.fractionBits % Nat.pow 2 f.exponentBits
  let negative := bits / Nat.pow 2 (f.fractionBits + f.exponentBits) % 2 == 1
  let least : Int := 1 - (f.bias : Int) - f.fractionBits
  if e = Nat.pow 2 f.exponentBits - 1 then
    if fraction = 0 then .infinite negative else .undefined
  else if e = 0 then .finite negative ⟨fraction, least, false⟩
  else .finite negative ⟨Nat.pow 2 f.fractionBits + fraction, least + (e - 1 : Nat), fraction == 0 && 1 < e⟩

end BinaryFormat

def compareScaled (a : Nat) (i : Int) (n : Nat) (j : Int) : Ordering :=
  compare (a * Nat.pow 10 i.toNat * Nat.pow 2 (-j).toNat)
    (n * Nat.pow 2 j.toNat * Nat.pow 10 (-i).toNat)

namespace Binary

/-- The decimal lies among the reals that round to the value, to nearest and ties to even. -/
def ReadsBack (x : Binary) (d : Decimal) : Prop :=
  let low := if x.narrowBelow then 4 * x.significand - 1 else 4 * x.significand - 2
  let below := compareScaled d.digits d.exponent low (x.exponent - 2)
  let above := compareScaled d.digits d.exponent (4 * x.significand + 2) (x.exponent - 2)
  if x.significand % 2 = 0 then below ≠ .lt ∧ above ≠ .gt else below = .gt ∧ above = .lt

instance (x : Binary) (d : Decimal) : Decidable (x.ReadsBack d) := by
  unfold ReadsBack; infer_instance

/-- The number of digits before the point: the least `k` with the value below `10 ^ k`. -/
def scale (x : Binary) : Int :=
  let k := Int.fdiv (((x.significand.log2 : Int) + x.exponent) * 30103) 100000
  if compareScaled 1 k x.significand x.exponent = .gt then k
  else if compareScaled 1 (k + 1) x.significand x.exponent = .gt then k + 1
  else k + 2

def floorAt (x : Binary) (e : Int) : Nat :=
  x.significand * Nat.pow 2 x.exponent.toNat * Nat.pow 10 (-e).toNat /
    (Nat.pow 10 e.toNat * Nat.pow 2 (-x.exponent).toNat)

end Binary

inductive Tie where
  | toEven
  | up
deriving DecidableEq

namespace Binary

def onGrid? (tie : Tie) (x : Binary) (e : Int) : Option Decimal :=
  let d := x.floorAt e
  let lower : Decimal := ⟨d, e⟩
  let upper : Decimal := ⟨d + 1, e⟩
  if x.ReadsBack lower then
    if x.ReadsBack upper then
      match compareScaled (2 * d + 1) e (2 * x.significand) x.exponent with
      | .gt => some lower
      | .lt => some upper
      | .eq => some (if tie = .toEven ∧ d % 2 = 0 then lower else upper)
    else some lower
  else if x.ReadsBack upper then some upper
  else none

def exact (x : Binary) : Decimal :=
  if 0 ≤ x.exponent then ⟨x.significand * Nat.pow 2 x.exponent.toNat, 0⟩
  else ⟨x.significand * Nat.pow 5 (-x.exponent).toNat, x.exponent⟩

end Binary

def Decimal.strip (d : Decimal) : Decimal :=
  go d.digits d.digits d.exponent
where
  go : Nat → Nat → Int → Decimal
    | 0, n, e => ⟨n, e⟩
    | fuel + 1, n, e => if n ≠ 0 ∧ n % 10 = 0 then go fuel (n / 10) (e + 1) else ⟨n, e⟩

def Binary.shortest (tie : Tie) (x : Binary) : Decimal :=
  if x.significand = 0 then ⟨0, 0⟩
  else
    let k := x.scale
    match (List.range 17).findSome? fun (n : Nat) => x.onGrid? tie (k - (n + 1)) with
    | some d => d.strip
    | none => x.exact.strip

end PortfolioReports.Numeric
