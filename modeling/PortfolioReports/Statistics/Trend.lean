import PortfolioReports.Json.Typed
import PortfolioReports.Numeric.Scalar

namespace PortfolioReports

open Scalar

variable {α : Type} [Scalar α]

inductive TrendDirection where
  | improving
  | declining
  | stable
deriving DecidableEq, Repr

instance : Vocabulary TrendDirection where
  title := "TrendDirection"
  all := [.improving, .declining, .stable]
  name
    | .improving => "improving"
    | .declining => "declining"
    | .stable => "stable"
  find?_name a := by cases a <;> decide

structure Trend (α : Type) where
  direction : TrendDirection
  slope : α
  current : α
  changeRate : α
  projectedNext : α
  points : Nat

structure SeriesSums (α : Type) where
  x : α
  y : α
  xy : α
  xx : α

namespace Trend

def addPoint (s : SeriesSums α) (i : Nat) (y : α) : SeriesSums α :=
  ⟨s.x + whole i, s.y + y, s.xy + whole i * y, s.xx + whole i * whole i⟩

def sums (values : List α) : SeriesSums α :=
  values.zipIdx.foldl (fun s p => addPoint s p.2 p.1) ⟨zero, zero, zero, zero⟩

def denominator (n : α) (s : SeriesSums α) : α := n * s.xx - s.x * s.x

def slopeOf (values : List α) : α :=
  let n := whole values.length
  let s := sums values
  if same (denominator n s) zero then zero else (n * s.xy - s.x * s.y) / denominator n s

def directionOf (slope : α) : TrendDirection :=
  if lt (decimal 5 2) slope then .improving
  else if lt slope (-decimal 5 2) then .declining
  else .stable

def changeRateOf (first last : α) : α :=
  if same first zero then zero else (last - first) / first * whole 100

def of? (values : List α) : Option (Trend α) :=
  match values with
  | first :: second :: rest =>
    let last := (second :: rest).getLast (by simp)
    let slope := slopeOf values
    some ⟨directionOf slope, slope, last, changeRateOf first last, last + slope, values.length⟩
  | _ => none

def toJson (write : α → Json) (t : Trend α) : Json := .object
  [("direction", .ofWord t.direction), ("slope", write t.slope), ("current_value", write t.current),
   ("change_rate", write t.changeRate), ("projected_next", write t.projectedNext), ("data_points", .ofNat t.points)]

end Trend

end PortfolioReports
