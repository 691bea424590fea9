import Mathlib.Algebra.Order.Field.Power
import Mathlib.Algebra.Order.Field.Rat
import Mathlib.Tactic.FieldSimp
import Mathlib.Tactic.Ring
import Mathlib.Tactic.Positivity
import Mathlib.Tactic.Linarith
import PortfolioReports.Numeric.Shortest

namespace PortfolioReports.Numeric

theorem zpow_eq_div {b : ℚ} (hb : b ≠ 0) (i : ℤ) : b ^ i = b ^ i.toNat / b ^ (-i).toNat := by
  rw [← zpow_natCast, ← zpow_natCast, ← zpow_sub₀ hb]
  congr 1
  omega

theorem compareScaled_ne_gt_iff {a n : ℕ} {i j : ℤ} :
    compareScaled a i n j ≠ .gt ↔ (a : ℚ) * 10 ^ i ≤ n * 2 ^ j := by
  rw [compareScaled, Nat.compare_ne_gt, Nat.pow_eq, Nat.pow_eq, Nat.pow_eq, Nat.pow_eq,
    zpow_eq_div (by norm_num) i, zpow_eq_div (by norm_num) j, mul_div_assoc', mul_div_assoc',
    div_le_div_iff₀ (by positivity) (by positivity), ← Nat.cast_le (α := ℚ)]
  push_cast
  rfl

def Decimal.value (d : Decimal) : ℚ := d.digits * 10 ^ d.exponent

namespace Binary

/-- The midpoint between the value and the next one above it. -/
def upper (x : Binary) : ℚ := (4 * x.significand + 2 : ℕ) * 2 ^ (x.exponent - 2)

theorem value_le_upper {x : Binary} {d : Decimal} (h : x.ReadsBack d) : d.value ≤ x.upper := by
  apply compareScaled_ne_gt_iff.mp
  simp only [ReadsBack] at h
  split at h
  · exact h.2
  · rw [h.2]
    decide

theorem value_exact (x : Binary) : x.exact.value = x.significand * 2 ^ x.exponent := by
  unfold exact Decimal.value
  split
  · rename_i h
    obtain ⟨n, hn⟩ := Int.eq_ofNat_of_zero_le h
    simp [hn]
  · rename_i h
    obtain ⟨n, hn⟩ := Int.eq_ofNat_of_zero_le (a := -x.exponent) (by omega)
    have hexp : x.exponent = -(n : ℤ) := by omega
    simp only [hexp, neg_neg, Int.toNat_natCast, zpow_neg, zpow_natCast, Nat.pow_eq]
    push_cast
    rw [show (10 : ℚ) = 2 * 5 by norm_num, mul_pow]
    field_simp

theorem exact_le_upper (x : Binary) : x.exact.value ≤ x.upper := by
  have hsplit : x.upper = x.significand * 2 ^ x.exponent + 2 ^ x.exponent / 2 := by
    unfold upper
    rw [zpow_sub₀ (by norm_num)]
    push_cast
    ring
  have hpos : (0 : ℚ) < 2 ^ x.exponent := by positivity
  rw [value_exact, hsplit]
  linarith

theorem onGrid?_le_upper {tie : Tie} {x : Binary} {e : ℤ} {d : Decimal} (h : x.onGrid? tie e = some d) :
    d.value ≤ x.upper := by
  apply value_le_upper
  simp only [onGrid?] at h
  split at h
  · rename_i hlower
    split at h
    · rename_i hupper
      split at h
      · cases h
        exact hlower
      · cases h
        exact hupper
      · cases h
        split
        · exact hlower
        · exact hupper
    · cases h
      exact hlower
  · split at h
    · rename_i hupper
      cases h
      exact hupper
    · cases h

end Binary

theorem Decimal.value_strip (d : Decimal) : d.strip.value = d.value := by
  have hgo : ∀ (fuel n : ℕ) (e : ℤ), (Decimal.strip.go fuel n e).value = (⟨n, e⟩ : Decimal).value := by
    intro fuel
    induction fuel with
    | zero => exact fun _ _ => rfl
    | succ fuel ih =>
      intro n e
      unfold Decimal.strip.go
      split
      · rename_i h
        rw [ih, Decimal.value, Decimal.value]
        have hn : (n : ℚ) = (n / 10 : ℕ) * 10 := by
          exact_mod_cast (Nat.div_mul_cancel (Nat.dvd_of_mod_eq_zero h.2)).symm
        rw [zpow_add_one₀ (by norm_num), hn]
        simp
        ring
      · rfl
  exact hgo _ _ _

theorem Binary.shortest_le_upper (tie : Tie) (x : Binary) : (x.shortest tie).value ≤ x.upper := by
  simp only [shortest]
  split
  · rw [Decimal.value, upper]
    simp only [Nat.cast_zero, zero_mul]
    positivity
  · split
    · rename_i d hd
      obtain ⟨n, -, hn⟩ := List.exists_of_findSome?_eq_some hd
      rw [Decimal.value_strip]
      exact onGrid?_le_upper hn
    · rw [Decimal.value_strip]
      exact exact_le_upper x

end PortfolioReports.Numeric
