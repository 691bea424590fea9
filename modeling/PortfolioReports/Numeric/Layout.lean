import PortfolioReports.Numeric.Shortest

namespace PortfolioReports.Numeric

structure NumberLayout where
  positional : Int → Bool
  pointZero : Bool
  tie : Tie

def zeros (n : Nat) : String := String.ofList (List.replicate n '0')

namespace NumberLayout

def placePoint (l : NumberLayout) (ds : String) (k : Int) : String :=
  if k ≤ 0 then "0." ++ zeros (-k).toNat ++ ds
  else if ds.length ≤ k.toNat then
    ds ++ zeros (k.toNat - ds.length) ++ (if l.pointZero then ".0" else "")
  else String.ofList (ds.toList.take k.toNat) ++ "." ++ String.ofList (ds.toList.drop k.toNat)

def withExponent (ds : String) (e : Int) : String :=
  let mark := if e < 0 then "e-" else "e+"
  let lead := String.ofList (ds.toList.take 1)
  let rest := String.ofList (ds.toList.drop 1)
  lead ++ (if rest.isEmpty then "" else "." ++ rest) ++ mark ++ toString e.natAbs

def renderDecimal (l : NumberLayout) (d : Decimal) : String :=
  if d.digits = 0 then (if l.pointZero then "0.0" else "0")
  else
    let ds := toString d.digits
    let k : Int := ds.length + d.exponent
    if l.positional (k - 1) then l.placePoint ds k else withExponent ds (k - 1)

def renderValue (l : NumberLayout) : BinaryValue → String
  | .undefined => "NaN"
  | .infinite negative => if negative then "-inf" else "inf"
  | .finite negative x => (if negative then "-" else "") ++ l.renderDecimal (x.shortest l.tie)

def render (l : NumberLayout) (x : Float) : String :=
  l.renderValue (binary64.decode x.toBits.toNat)

def renderSingle (l : NumberLayout) (x : Float) : String :=
  l.renderValue (binary32.decode x.toFloat32.toBits.toNat)

end NumberLayout

def plain : NumberLayout := ⟨fun _ => true, false, .up⟩

def roundQuotient (num den : Nat) : Nat :=
  let q := num / den
  match compare (2 * (num % den)) den with
  | .lt => q
  | .gt => q + 1
  | .eq => if q % 2 = 0 then q else q + 1

def placesText (places n : Nat) : String :=
  let ds := (toString n).toList
  let ds := List.replicate (places + 1 - ds.length) '0' ++ ds
  let whole := String.ofList (ds.take (ds.length - places))
  if places = 0 then whole else whole ++ "." ++ String.ofList (ds.drop (ds.length - places))

def fixed (places : Nat) (x : Float) : String :=
  match binary64.decode x.toBits.toNat with
  | .undefined => "NaN"
  | .infinite negative => if negative then "-inf" else "inf"
  | .finite negative b =>
    let n := roundQuotient (b.significand * Nat.pow 2 b.exponent.toNat * Nat.pow 10 places)
      (Nat.pow 2 (-b.exponent).toNat)
    (if negative then "-" else "") ++ placesText places n

end PortfolioReports.Numeric
