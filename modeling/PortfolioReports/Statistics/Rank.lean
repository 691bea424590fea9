import PortfolioReports.Numeric.Scalar
import PortfolioReports.Records.Benchmark

namespace PortfolioReports

open Scalar

variable {α : Type} [Scalar α]

inductive PerformanceLevel where
  | excellent
  | above
  | at
  | below
deriving DecidableEq, Repr

instance : Vocabulary PerformanceLevel where
  title := "PerformanceLevel"
  all := [.excellent, .above, .at, .below]
  name
    | .excellent => "excellent"
    | .above => "above"
    | .at => "at"
    | .below => "below"
  find?_name a := by cases a <;> decide

structure Anchor (α : Type) where
  rank : α
  value : α

namespace Spread

def ranked (s : Spread α) : List (Anchor α) :=
  [⟨whole 0, s.min⟩, ⟨whole 25, s.p25⟩, ⟨whole 50, s.p50⟩, ⟨whole 75, s.p75⟩, ⟨whole 90, s.p90⟩,
   ⟨whole 100, s.max⟩]

/-- The rank of a value between two anchors, on the line through them. Anchors that do not ascend
give the lower rank. -/
def interpolate (value : α) (lo hi : Anchor α) : α :=
  if le hi.value lo.value then lo.rank
  else lo.rank + (value - lo.value) / (hi.value - lo.value) * (hi.rank - lo.rank)

def rankAmong (value : α) : List (Anchor α) → α
  | lo :: hi :: rest => if le value hi.value then interpolate value lo hi else rankAmong value (hi :: rest)
  | _ => whole 100

def percentileRank (s : Spread α) (value : α) : α :=
  if le value s.min then whole 0
  else if le s.max value then whole 100
  else rankAmong value s.ranked

def level (s : Spread α) (value : α) : PerformanceLevel :=
  if le s.p75 value then .excellent
  else if le s.p50 value then .above
  else if le s.p25 value then .at
  else .below

end Spread

def peerPercentile (value : α) (peers : List α) : α :=
  if peers.isEmpty then zero
  else
    let atOrBelow := ((peers.mergeSort sortsBefore).takeWhile fun p => le p value).length
    let share := whole atOrBelow / whole peers.length * whole 100
    Scalar.round (share * whole 10) / whole 10

end PortfolioReports
