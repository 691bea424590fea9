import Mathlib.Algebra.BigOperators.Fin
import Mathlib.Algebra.Order.BigOperators.Ring.Finset
import Mathlib.Tactic.FieldSimp
import Mathlib.Tactic.Linarith
import Mathlib.Tactic.LinearCombination
import Mathlib.Tactic.NormNum
import Mathlib.Tactic.Positivity
import Mathlib.Tactic.Ring
import PortfolioReports.Proofs.Numeric.Rational
import PortfolioReports.Statistics.Trend

namespace PortfolioReports.Trend

open Finset

variable {values : List ℚ}

theorem foldl_addPoint (points : List (ℚ × ℕ)) (s : SeriesSums ℚ) :
    points.foldl (fun s p => addPoint s p.2 p.1) s =
      ⟨s.x + (points.map fun p => (p.2 : ℚ)).sum, s.y + (points.map fun p => p.1).sum,
        s.xy + (points.map fun p => (p.2 : ℚ) * p.1).sum, s.xx + (points.map fun p => (p.2 : ℚ) * p.2).sum⟩ := by
  induction points generalizing s with
  | nil => simp
  | cons p points ih =>
    rw [List.foldl_cons, ih]
    simp [addPoint, add_assoc]

theorem sum_map_zipIdx (f : ℚ × ℕ → ℚ) (values : List ℚ) :
    (values.zipIdx.map f).sum = ∑ i : Fin values.length, f (values[i], i) := by
  have hlist : values.zipIdx.map f = List.ofFn fun i : Fin values.length => f (values[i], i) := by
    apply List.ext_getElem
    · simp
    · intro i _ _
      simp
  rw [hlist, List.sum_ofFn]

theorem sums_eq (values : List ℚ) : sums values =
    ⟨∑ i : Fin values.length, (i : ℚ), ∑ i : Fin values.length, values[i],
      ∑ i : Fin values.length, (i : ℚ) * values[i], ∑ i : Fin values.length, (i : ℚ) * i⟩ := by
  rw [sums, foldl_addPoint]
  simp only [sum_map_zipIdx, Scalar.zero_rat, zero_add]

theorem sum_index (n : ℕ) : ∑ i : Fin n, (i : ℚ) = n * (n - 1) / 2 := by
  rw [Fin.sum_univ_eq_sum_range (fun i => (i : ℚ))]
  induction n with
  | zero => simp
  | succ n ih =>
    rw [sum_range_succ, ih]
    push_cast
    ring

theorem sum_index_sq (n : ℕ) : ∑ i : Fin n, (i : ℚ) * i = n * (n - 1) * (2 * n - 1) / 6 := by
  rw [Fin.sum_univ_eq_sum_range (fun i => (i : ℚ) * i)]
  induction n with
  | zero => simp
  | succ n ih =>
    rw [sum_range_succ, ih]
    push_cast
    ring

theorem denominator_eq (values : List ℚ) : denominator (Scalar.whole values.length) (sums values) =
    (values.length : ℚ) ^ 2 * ((values.length : ℚ) ^ 2 - 1) / 12 := by
  rw [denominator, sums_eq, sum_index, sum_index_sq, Scalar.whole_rat]
  ring

theorem denominator_pos (h : 2 ≤ values.length) : 0 < denominator (Scalar.whole values.length) (sums values) := by
  have hn : (2 : ℚ) ≤ values.length := by exact_mod_cast h
  have hsq : 0 < (values.length : ℚ) ^ 2 - 1 := by nlinarith
  rw [denominator_eq]
  positivity

def squaredError (values : List ℚ) (line : ℕ → ℚ) : ℚ := ∑ i : Fin values.length, (values[i] - line i) ^ 2

def straight (a b : ℚ) (i : ℕ) : ℚ := a + b * i

def mean (values : List ℚ) : ℚ := values.sum / values.length

/-- The line through the middle of the series that has the slope of its trend. -/
def fitted (values : List ℚ) (i : ℕ) : ℚ := mean values + slopeOf values * (i - (values.length - 1) / 2)

def intercept (values : List ℚ) : ℚ := mean values - slopeOf values * ((values.length - 1) / 2)

theorem fitted_eq (values : List ℚ) : fitted values = straight (intercept values) (slopeOf values) := by
  funext i
  rw [fitted, straight, intercept]
  ring

theorem squaredError_straight (values : List ℚ) (a b : ℚ) : squaredError values (straight a b) =
    ∑ i : Fin values.length, values[i] ^ 2 - 2 * a * (sums values).y - 2 * b * (sums values).xy +
      values.length * a ^ 2 + 2 * a * b * (sums values).x + b ^ 2 * (sums values).xx := by
  have hpoint : ∀ i : Fin values.length, (values[i] - straight a b i) ^ 2 =
      values[i] ^ 2 - 2 * a * values[i] - 2 * b * (i * values[i]) + a ^ 2 + 2 * a * b * i + b ^ 2 * (i * i) := by
    intro i
    rw [straight]
    ring
  rw [squaredError, sum_congr rfl fun i _ => hpoint i]
  simp only [sum_add_distrib, sum_sub_distrib, ← mul_sum, sums_eq, sum_const, card_univ, Fintype.card_fin, nsmul_eq_mul]

theorem normal_intercept (h : 2 ≤ values.length) :
    values.length * intercept values + slopeOf values * (sums values).x = (sums values).y := by
  have hn : (values.length : ℚ) ≠ 0 := Nat.cast_ne_zero.mpr (by omega)
  have hx : (sums values).x = values.length * (values.length - 1) / 2 := by rw [sums_eq, sum_index]
  have hy : (sums values).y = values.sum := by rw [sums_eq]; exact Fin.sum_univ_getElem values
  rw [intercept, mean, hx, hy]
  field_simp
  ring

theorem normal_slope (h : 2 ≤ values.length) :
    values.length * (intercept values * (sums values).x + slopeOf values * (sums values).xx) =
      values.length * (sums values).xy := by
  have hpos := denominator_pos h
  have hslope : slopeOf values * denominator (Scalar.whole values.length) (sums values) =
      values.length * (sums values).xy - (sums values).x * (sums values).y := by
    rw [slopeOf, Scalar.same_rat, Scalar.zero_rat, decide_eq_false hpos.ne', if_neg Bool.false_ne_true,
      div_mul_cancel₀ _ hpos.ne', Scalar.whole_rat]
  rw [denominator, Scalar.whole_rat] at hslope
  linear_combination hslope + (sums values).x * normal_intercept h

/-- How much worse another line is than the fitted one. -/
theorem squaredError_sub_fitted (h : 2 ≤ values.length) (a b : ℚ) :
    values.length * (squaredError values (straight a b) - squaredError values (fitted values)) =
      (values.length * (a - intercept values) + (b - slopeOf values) * (sums values).x) ^ 2 +
        (b - slopeOf values) ^ 2 * denominator (Scalar.whole values.length) (sums values) := by
  rw [fitted_eq, squaredError_straight, squaredError_straight, denominator, Scalar.whole_rat]
  linear_combination 2 * values.length * (a - intercept values) * normal_intercept h +
    2 * (b - slopeOf values) * normal_slope h

theorem squaredError_fitted_le (h : 2 ≤ values.length) (a b : ℚ) :
    squaredError values (fitted values) ≤ squaredError values (straight a b) := by
  have hn : (0 : ℚ) < values.length := Nat.cast_pos.mpr (by omega)
  have hpos := denominator_pos h
  have hsub := squaredError_sub_fitted h a b
  refine sub_nonneg.mp (nonneg_of_mul_nonneg_right ?_ hn)
  rw [hsub]
  positivity

theorem eq_slopeOf_of_squaredError_eq (h : 2 ≤ values.length) {a b : ℚ}
    (heq : squaredError values (straight a b) = squaredError values (fitted values)) : b = slopeOf values := by
  have hpos := denominator_pos h
  have hsub := squaredError_sub_fitted h a b
  rw [heq, sub_self, mul_zero] at hsub
  have hzero : (b - slopeOf values) ^ 2 * denominator (Scalar.whole values.length) (sums values) = 0 := by
    have := sq_nonneg (values.length * (a - intercept values) + (b - slopeOf values) * (sums values).x)
    have : 0 ≤ (b - slopeOf values) ^ 2 * denominator (Scalar.whole values.length) (sums values) := by positivity
    linarith
  rw [mul_eq_zero_iff_right hpos.ne', sq_eq_zero_iff, sub_eq_zero] at hzero
  exact hzero

theorem slopeOf_eq_of_forall_le (h : 2 ≤ values.length) {a b : ℚ}
    (hbest : ∀ a' b', squaredError values (straight a b) ≤ squaredError values (straight a' b')) :
    slopeOf values = b := by
  have hle := squaredError_fitted_le h a b
  have hge := hbest (intercept values) (slopeOf values)
  rw [← fitted_eq] at hge
  exact (eq_slopeOf_of_squaredError_eq h (le_antisymm hge hle)).symm

theorem squaredError_map_add (c : ℚ) (values : List ℚ) (a b : ℚ) :
    squaredError (values.map (· + c)) (straight a b) = squaredError values (straight (a - c) b) := by
  refine Fintype.sum_equiv (finCongr (List.length_map _)) _ _ fun i => ?_
  simp only [Fin.getElem_fin, List.getElem_map, straight, finCongr_apply, Fin.val_cast]
  ring

theorem squaredError_reverse (values : List ℚ) (a b : ℚ) :
    squaredError values.reverse (straight a b) = squaredError values (straight (a + b * (values.length - 1)) (-b)) := by
  refine Fintype.sum_equiv ((finCongr List.length_reverse).trans Fin.revPerm) _ _ fun i => ?_
  have hi : i.val < values.length := by simpa using i.isLt
  have hmirror : ((values.length - (i + 1) : ℕ) : ℚ) = values.length - (i + 1) := by
    rw [Nat.cast_sub hi]
    push_cast
    rfl
  simp only [Fin.getElem_fin, List.getElem_reverse, straight, Equiv.trans_apply, finCongr_apply, Fin.revPerm_apply,
    Fin.val_rev, Fin.val_cast, hmirror, Nat.sub_sub, Nat.add_comm 1]
  ring

theorem slopeOf_map_add (h : 2 ≤ values.length) (c : ℚ) : slopeOf (values.map (· + c)) = slopeOf values := by
  refine slopeOf_eq_of_forall_le (a := intercept values + c) (by simpa using h) fun a' b' => ?_
  rw [squaredError_map_add, squaredError_map_add, add_sub_cancel_right, ← fitted_eq]
  exact squaredError_fitted_le h (a' - c) b'

theorem slopeOf_reverse (h : 2 ≤ values.length) : slopeOf values.reverse = -slopeOf values := by
  refine slopeOf_eq_of_forall_le (a := intercept values + slopeOf values * (values.length - 1)) (by simpa using h)
    fun a' b' => ?_
  rw [squaredError_reverse, squaredError_reverse, neg_neg, neg_mul, add_neg_cancel_right, ← fitted_eq]
  exact squaredError_fitted_le h _ _

theorem slopeOf_of_straight (h : 2 ≤ values.length) {a b : ℚ}
    (hline : ∀ (i : ℕ) (hi : i < values.length), values[i] = straight a b i) : slopeOf values = b := by
  refine slopeOf_eq_of_forall_le (a := a) h fun a' b' => ?_
  have hzero : squaredError values (straight a b) = 0 := by
    refine sum_eq_zero fun i _ => ?_
    rw [Fin.getElem_fin, hline i i.isLt, sub_self, zero_pow two_ne_zero]
  rw [hzero]
  exact sum_nonneg fun i _ => sq_nonneg _

theorem of?_eq (h : 2 ≤ values.length) : ∃ t, of? values = some t ∧ t.slope = slopeOf values ∧
    t.projectedNext = values[values.length - 1] + slopeOf values := by
  match values, h with
  | first :: second :: rest, _ =>
    refine ⟨_, rfl, rfl, ?_⟩
    rw [← List.getLast_eq_getElem (List.cons_ne_nil _ _)]
    rfl

theorem slope_of? (h : 2 ≤ values.length) : (of? values).map slope = some (slopeOf values) := by
  obtain ⟨t, ht, hslope, -⟩ := of?_eq h
  rw [ht, Option.map_some, hslope]

theorem of?_fitsBest (values : List ℚ) (h : 2 ≤ values.length) :
    ∃ t, of? values = some t ∧
      denominator (values.length : ℚ) (sums values) =
        values.length * ∑ i ∈ range values.length, (i : ℚ) ^ 2 - (∑ i ∈ range values.length, (i : ℚ)) ^ 2 ∧
      0 < denominator (values.length : ℚ) (sums values) ∧
      (∀ a b, squaredError values (fun i => mean values + t.slope * ((i : ℚ) - (values.length - 1) / 2)) ≤
        squaredError values (straight a b)) ∧
      (∀ a b, squaredError values (straight a b) =
        squaredError values (fun i => mean values + t.slope * ((i : ℚ) - (values.length - 1) / 2)) → b = t.slope) ∧
      (∀ c, (of? (values.map (· + c))).map slope = some t.slope) ∧
      (of? values.reverse).map slope = some (-t.slope) ∧
      ∀ a b, (∀ (i : ℕ) (hi : i < values.length), values[i] = straight a b i) →
        t.slope = b ∧ t.projectedNext = straight a b values.length := by
  obtain ⟨t, ht, hslope, hnext⟩ := of?_eq h
  have hdenominator : denominator (values.length : ℚ) (sums values) =
      values.length * ∑ i ∈ range values.length, (i : ℚ) ^ 2 - (∑ i ∈ range values.length, (i : ℚ)) ^ 2 := by
    rw [denominator, sums_eq, ← Fin.sum_univ_eq_sum_range (fun i => (i : ℚ)),
      ← Fin.sum_univ_eq_sum_range (fun i => (i : ℚ) ^ 2)]
    simp only [sq]
  refine ⟨t, ht, hdenominator, denominator_pos h, ?_, ?_, ?_, ?_, ?_⟩
  · intro a b
    rw [hslope]
    exact squaredError_fitted_le h a b
  · intro a b heq
    rw [hslope] at heq ⊢
    exact eq_slopeOf_of_squaredError_eq h heq
  · intro c
    rw [slope_of? (by simpa using h), slopeOf_map_add h, hslope]
  · rw [slope_of? (by simpa using h), slopeOf_reverse h, hslope]
  · intro a b hline
    have hlast : ((values.length - 1 : ℕ) : ℚ) = values.length - 1 := by
      rw [Nat.cast_sub (by omega), Nat.cast_one]
    rw [hnext, hslope, slopeOf_of_straight h hline, hline _ (by omega), straight, straight, hlast]
    exact ⟨rfl, by ring⟩

def uneven : List ℚ := [1, 0, 5]

theorem of?_fitsBest_uneven : 2 ≤ uneven.length ∧
    ∃ t, of? uneven = some t ∧ t.slope = 2 ∧ (∀ a b, 6 ≤ squaredError uneven (straight a b)) ∧
      squaredError uneven (straight 0 2) = 6 ∧ (of? [5, 0, 1]).map slope = some (-2 : ℚ) := by
  have h : 2 ≤ uneven.length := by decide
  obtain ⟨t, ht, -, -, hbest, -, -, hreverse, -⟩ := of?_fitsBest uneven h
  have hslope : t.slope = 2 := by
    have htwo : (of? uneven).map slope = some 2 := by decide +kernel
    rw [ht] at htwo
    exact Option.some.inj htwo
  have hsix : squaredError uneven (fun i => mean uneven + t.slope * ((i : ℚ) - (uneven.length - 1) / 2)) = 6 := by
    rw [hslope]
    decide +kernel
  rw [hsix] at hbest
  rw [hslope] at hreverse
  exact ⟨h, t, ht, hslope, hbest, by decide +kernel, hreverse⟩

end PortfolioReports.Trend
