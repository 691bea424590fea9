import Mathlib.Algebra.Order.Field.Power
import Mathlib.Algebra.Order.Field.Rat
import Mathlib.Tactic.FieldSimp
import Mathlib.Tactic.Ring
import Mathlib.Tactic.Positivity
import Mathlib.Tactic.Linarith
import Mathlib.Tactic.NormNum

/-!
A product of floats is rounded to nearest, so it is at most half a unit of the last place above the exact one.
-/

namespace PortfolioReports.Numeric

open Float.Model Float.Model.UnpackedFloat

theorem log2_mul_two_pow {n : ℕ} (hn : n ≠ 0) (k : ℕ) : (n * 2 ^ k).log2 = n.log2 + k := by
  induction k with
  | zero => simp
  | succ k ih => rw [pow_succ', mul_left_comm, Nat.log2_two_mul (by positivity), ih, Nat.add_assoc]

theorem mantissa_shiftRight (em : ExtendedMantissa) (k : ℕ) : (em >>> k).mantissa = em.mantissa / 2 ^ k := by
  induction k with
  | zero => simp [HShiftRight.hShiftRight, Nat.repeat]
  | succ k ih =>
    change (em >>> k).mantissa / 2 = _
    rw [ih, Nat.div_div_eq_div_mul, pow_succ]

theorem roundBit_shiftRight_succ (em : ExtendedMantissa) (k : ℕ) :
    (em >>> (k + 1)).roundBit = (em.mantissa / 2 ^ k % 2 != 0) := by
  change ((em >>> k).mantissa % 2 != 0) = _
  rw [mantissa_shiftRight]

theorem roundedMantissa_le (em : ExtendedMantissa) :
    em.roundedMantissa ≤ em.mantissa + if em.roundBit then 1 else 0 := by
  obtain ⟨m, roundBit, stickyBit⟩ := em
  cases roundBit <;> cases stickyBit <;>
    simp [ExtendedMantissa.roundedMantissa, ExtendedMantissa.accuracy, Accuracy.roundToNearestEven]
  omega

theorem le_roundedMantissa (em : ExtendedMantissa) : em.mantissa ≤ em.roundedMantissa := by
  obtain ⟨m, roundBit, stickyBit⟩ := em
  cases roundBit <;> cases stickyBit <;>
    simp [ExtendedMantissa.roundedMantissa, ExtendedMantissa.accuracy, Accuracy.roundToNearestEven]

def shifted (m k : ℕ) : ExtendedMantissa := ExtendedMantissa.ofMantissaAndAccuracy m .exact >>> k

theorem roundedMantissa_shifted_le (m k : ℕ) :
    (shifted m k).roundedMantissa * 2 ^ k ≤ m + if 2 ^ k ∣ m then 0 else 2 ^ (k - 1) := by
  have hle := roundedMantissa_le (shifted m k)
  have hmantissa : (shifted m k).mantissa = m / 2 ^ k := mantissa_shiftRight _ k
  rw [hmantissa] at hle
  have hfloor := Nat.div_mul_le_self m (2 ^ k)
  cases hbit : (shifted m k).roundBit with
  | false =>
    simp only [hbit, Bool.false_eq_true, if_false, Nat.add_zero] at hle
    have hmul := Nat.mul_le_mul_right (2 ^ k) hle
    omega
  | true =>
    rw [hbit] at hle
    cases k with
    | zero => simp [shifted, ExtendedMantissa.ofMantissaAndAccuracy, HShiftRight.hShiftRight, Nat.repeat] at hbit
    | succ k =>
      have hodd : m / 2 ^ k % 2 ≠ 0 := by
        rw [shifted, roundBit_shiftRight_succ] at hbit
        simpa [ExtendedMantissa.ofMantissaAndAccuracy] using hbit
      have hhalf := Nat.div_mul_le_self m (2 ^ k)
      have hdiv : m / 2 ^ (k + 1) = m / 2 ^ k / 2 := by rw [pow_succ, Nat.div_div_eq_div_mul]
      have hnot : ¬2 ^ (k + 1) ∣ m := by
        rintro ⟨c, rfl⟩
        apply hodd
        rw [pow_succ, mul_assoc, Nat.mul_div_cancel_left _ (by positivity)]
        omega
      rw [if_neg hnot]
      simp only [if_true, Nat.add_sub_cancel] at hle ⊢
      have h2 : m / 2 ^ k = 2 * (m / 2 ^ (k + 1)) + 1 := by omega
      rw [h2] at hhalf
      calc (shifted m (k + 1)).roundedMantissa * 2 ^ (k + 1)
          ≤ (m / 2 ^ (k + 1) + 1) * 2 ^ (k + 1) := Nat.mul_le_mul_right _ hle
        _ = (2 * (m / 2 ^ (k + 1)) + 1) * 2 ^ k + 2 ^ k := by ring
        _ ≤ m + 2 ^ k := by omega

theorem targetExponent_eq {m : ℕ} {e : ℤ} (he : -1074 ≤ (m.log2 : ℤ) - 52 + e) :
    Format.binary64.targetExponent (totalExponent m e) = (m.log2 : ℤ) - 52 + e := by
  have hbits : Format.binary64.mantissaBits = 53 := rfl
  have hleast : Format.binary64.minExponent = -1074 := rfl
  rw [Format.targetExponent, totalExponent, hbits, hleast]
  omega

theorem shiftToTargetExponent_eq {m : ℕ} {e : ℤ} (hm : 52 ≤ m.log2) (he : -1074 ≤ (m.log2 : ℤ) - 52 + e) :
    shiftToTargetExponent Format.binary64 m e .exact = (shifted m (m.log2 - 52), e + (m.log2 - 52 : ℕ)) := by
  have hk : ((m.log2 : ℤ) - 52 + e - e).toNat = m.log2 - 52 := by omega
  simp only [shiftToTargetExponent, shiftToExponent, targetExponent_eq he, hk, shifted]

theorem shifted_zero (m : ℕ) : shifted m 0 = ⟨m, false, false⟩ := by
  simp [shifted, ExtendedMantissa.ofMantissaAndAccuracy, HShiftRight.hShiftRight, Nat.repeat]

theorem roundedMantissa_shifted_bounds {m : ℕ} (hm : 52 ≤ m.log2) :
    2 ^ 52 ≤ (shifted m (m.log2 - 52)).roundedMantissa ∧ (shifted m (m.log2 - 52)).roundedMantissa ≤ 2 ^ 53 := by
  have hne : m ≠ 0 := by
    rintro rfl
    simp at hm
  have hlow : 2 ^ (52 + (m.log2 - 52)) ≤ m := by
    rw [Nat.add_sub_cancel' hm]
    exact Nat.log2_self_le hne
  have hhigh : m < 2 ^ (53 + (m.log2 - 52)) := by
    rw [show 53 + (m.log2 - 52) = m.log2 + 1 by omega]
    exact Nat.lt_log2_self
  have hmantissa : (shifted m (m.log2 - 52)).mantissa = m / 2 ^ (m.log2 - 52) := mantissa_shiftRight _ _
  have hle := roundedMantissa_le (shifted m (m.log2 - 52))
  have hge := le_roundedMantissa (shifted m (m.log2 - 52))
  rw [hmantissa] at hle hge
  generalize m.log2 - 52 = k at *
  have hfloor : 2 ^ 52 ≤ m / 2 ^ k := by
    rw [Nat.le_div_iff_mul_le (by positivity), ← pow_add]
    exact hlow
  have hceil : m / 2 ^ k < 2 ^ 53 := by
    rw [Nat.div_lt_iff_lt_mul (by positivity), ← pow_add]
    exact hhigh
  split at hle <;> omega

theorem finite_congr {s : Sign} {m m' : ℕ} {e e' : ℤ} (hm : m = m') (he : e = e') (hpos : 0 < m) (hpos' : 0 < m') :
    UnpackedFloat.finite s m e hpos = .finite s m' e' hpos' := by
  subst hm he
  rfl

theorem roundWithAccuracy_of_shifts (s : Sign) {m : ℕ} {e e₁ e₂ : ℤ} {em em' : ExtendedMantissa}
    (hfirst : shiftToTargetExponent Format.binary64 m e .exact = (em, e₁))
    (hsecond : shiftToTargetExponent Format.binary64 em.roundedMantissa e₁ .exact = (em', e₂))
    (hpos : 0 < em'.mantissa) :
    roundWithAccuracy Format.binary64 s m e .exact = .finite s em'.mantissa e₂ hpos := by
  unfold roundWithAccuracy
  rw [hfirst]
  dsimp only
  rw [hsecond]
  exact dif_neg hpos.ne'

theorem roundWithAccuracy_eq (s : Sign) {m : ℕ} {e : ℤ} (hm : 52 ≤ m.log2) (he : -1074 ≤ (m.log2 : ℤ) - 52 + e) :
    ∃ (m' : ℕ) (e' : ℤ) (hpos : 0 < m'), roundWithAccuracy Format.binary64 s m e .exact = .finite s m' e' hpos ∧
      2 ^ 52 ≤ m' ∧ m' < 2 ^ 53 ∧ e + (m.log2 - 52 : ℕ) ≤ e' ∧
      (m' : ℚ) * 2 ^ e' = (shifted m (m.log2 - 52)).roundedMantissa * 2 ^ (e + (m.log2 - 52 : ℕ)) := by
  obtain ⟨hlow, hhigh⟩ := roundedMantissa_shifted_bounds hm
  have hfirst := shiftToTargetExponent_eq hm he
  have hexp : -1074 ≤ e + (m.log2 - 52 : ℕ) := by omega
  generalize shifted m (m.log2 - 52) = em at *
  generalize e + (m.log2 - 52 : ℕ) = e₁ at *
  have hr : em.roundedMantissa ≠ 0 := by omega
  cases Nat.lt_or_ge em.roundedMantissa (2 ^ 53) with
  | inl hsmall =>
    have hlog : em.roundedMantissa.log2 = 52 := (Nat.log2_eq_iff hr).mpr ⟨hlow, hsmall⟩
    have hsecond := shiftToTargetExponent_eq (m := em.roundedMantissa) (e := e₁) (by omega) (by omega)
    rw [hlog, Nat.sub_self, shifted_zero] at hsecond
    rw [Nat.cast_zero, add_zero] at hsecond
    exact ⟨em.roundedMantissa, e₁, by omega, roundWithAccuracy_of_shifts s hfirst hsecond hr.bot_lt, hlow, hsmall,
      le_rfl, rfl⟩
  | inr hlarge =>
    have heq : em.roundedMantissa = 2 ^ 53 := by omega
    have hlog : em.roundedMantissa.log2 = 53 := by rw [heq, Nat.log2_two_pow]
    have hsecond := shiftToTargetExponent_eq (m := em.roundedMantissa) (e := e₁) (by omega) (by omega)
    have hmantissa : (shifted em.roundedMantissa (em.roundedMantissa.log2 - 52)).mantissa = 2 ^ 52 := by
      rw [hlog, heq]
      decide
    refine ⟨2 ^ 52, e₁ + 1, by decide, ?_, by decide, by decide, by omega, ?_⟩
    · refine (roundWithAccuracy_of_shifts s hfirst hsecond (by rw [hmantissa]; decide)).trans ?_
      exact finite_congr hmantissa (by rw [hlog]; rfl) _ _
    · rw [heq, zpow_add_one₀ (by norm_num)]
      push_cast
      ring

/-- The float is a normal one, not below one, of this magnitude. -/
def HasMagnitude (x : Float.Model) (v : ℚ) : Prop :=
  ∃ (s : Sign) (m : ℕ) (e : ℤ) (hpos : 0 < m), x.unpack = .finite s m e hpos ∧ 2 ^ 52 ≤ m ∧ m < 2 ^ 53 ∧
    -52 ≤ e ∧ e ≤ 971 ∧ (m : ℚ) * 2 ^ e = v

theorem pack_finite_eq (s : Sign) (m : ℕ) (e : ℤ) (hpos : 0 < m) :
    UnpackedFloat.pack Format.binary64 (.finite s m e hpos) =
      if 2 ^ 11 ≤ (e + ((Format.binary64.exponentBias : ℕ) : ℤ) + (52 : ℕ)).toNat + 1 then
        packedInfinity Format.binary64 s
      else if m.log2 + 1 = 53 then
        packComponents Format.binary64 s
          (BitVec.ofNat 11 (e + ((Format.binary64.exponentBias : ℕ) : ℤ) + (52 : ℕ)).toNat) (BitVec.ofNat 52 m)
      else packComponents Format.binary64 s (0#11) (BitVec.ofNat 52 m) := rfl

theorem unpack_packComponents (s : Sign) {x : BitVec 11} {b : BitVec 52} (hone : x ≠ -1#11) (hzero : x ≠ 0#11)
    (hpos : 0 < (1#1 ++ b).toNat) : ∃ s', UnpackedFloat.unpack Format.binary64 (packComponents Format.binary64 s x b) =
      .finite s' (1#1 ++ b).toNat (x.toNat - ((Format.binary64.exponentBias : ℤ) + (52 : ℕ))) hpos := by
  have hexponent : unpackExponent (packComponents Format.binary64 s x b) = x := unpackExponent_packComponents
  have hmantissa : unpackMantissa (packComponents Format.binary64 s x b) = b := unpackMantissa_packComponents
  unfold UnpackedFloat.unpack
  rw [hexponent, if_neg hone, if_neg hzero]
  exact ⟨_, finite_congr (by rw [hmantissa]) rfl _ _⟩

theorem unpack_pack (s : Sign) {m : ℕ} {e : ℤ} (hpos : 0 < m) (hlow : 2 ^ 52 ≤ m) (hhigh : m < 2 ^ 53)
    (he : -52 ≤ e) (he' : e ≤ 971) : ∃ s', (pack (.finite s m e hpos)).unpack = .finite s' m e hpos := by
  have hlog : m.log2 = 52 := (Nat.log2_eq_iff hpos.ne').mpr ⟨hlow, hhigh⟩
  obtain ⟨b, hb⟩ := Int.eq_ofNat_of_zero_le (a := e + 1023 + 52) (by omega)
  have hbiased : (e + ((Format.binary64.exponentBias : ℕ) : ℤ) + (52 : ℕ)).toNat = b := by
    have : Format.binary64.exponentBias = 1023 := by decide
    omega
  have hmantissa : (1#1 ++ BitVec.ofNat 52 m).toNat = m := by
    rw [BitVec.toNat_append, ← Nat.shiftLeft_add_eq_or_of_lt (BitVec.isLt _)]
    simp [Nat.shiftLeft_eq]
    omega
  have hone : BitVec.ofNat 11 b ≠ -1#11 := by
    intro h
    have := congrArg BitVec.toNat h
    simp at this
    omega
  have hzero : BitVec.ofNat 11 b ≠ 0#11 := by
    intro h
    have := congrArg BitVec.toNat h
    simp at this
    omega
  have hpack : UnpackedFloat.pack Format.binary64 (.finite s m e hpos) =
      packComponents Format.binary64 s (BitVec.ofNat 11 b) (BitVec.ofNat 52 m) := by
    rw [pack_finite_eq, hlog, hbiased, if_neg (by omega), if_pos (by decide)]
  have hexponent : ((BitVec.ofNat 11 b).toNat : ℤ) - ((Format.binary64.exponentBias : ℤ) + ((52 : ℕ) : ℤ)) = e := by
    have hbias : Format.binary64.exponentBias = 1023 := by decide
    rw [BitVec.toNat_ofNat, Nat.mod_eq_of_lt (by omega)]
    omega
  have hpos' : 0 < (1#1 ++ BitVec.ofNat 52 m).toNat := by rwa [hmantissa]
  obtain ⟨s', hunpack⟩ := unpack_packComponents s hone hzero hpos'
  rw [← hpack] at hunpack
  exact ⟨s', hunpack.trans (finite_congr hmantissa hexponent _ _)⟩

/-- Beyond this, numbers are rounded to infinity. -/
def overflow : ℚ := 2 ^ 1024 - 2 ^ 970

theorem exponent_le_of_lt {e : ℤ} {v : ℚ} (hle : 2 ^ 52 * (2 : ℚ) ^ e ≤ v) (hv : v < 2 ^ 1024) : e ≤ 971 := by
  have hlt : (2 : ℚ) ^ (52 + e) < 2 ^ (1024 : ℤ) := by
    rw [zpow_add₀ (by norm_num)]
    exact_mod_cast lt_of_le_of_lt hle hv
  have hexp := (zpow_lt_zpow_iff_right₀ (by norm_num)).mp hlt
  omega

theorem value_shifted_le (m k : ℕ) (e : ℤ) : ((shifted m k).roundedMantissa : ℚ) * 2 ^ (e + k) ≤
    (m + if 2 ^ k ∣ m then 0 else 2 ^ (k - 1)) * 2 ^ e := by
  have hle := roundedMantissa_shifted_le m k
  rw [add_comm e, zpow_add₀ (by norm_num), ← mul_assoc, zpow_natCast]
  gcongr
  exact_mod_cast hle

theorem value_shifted_le_half (m k : ℕ) (e : ℤ) :
    ((shifted m k).roundedMantissa : ℚ) * 2 ^ (e + k) ≤ m * 2 ^ e + 2 ^ (e + k) / 2 := by
  apply (value_shifted_le m k e).trans
  split
  · have hpos : (0 : ℚ) < 2 ^ (e + k) := by positivity
    linarith
  · rename_i hnot
    cases k with
    | zero => simp at hnot
    | succ k =>
      rw [Nat.cast_add_one, ← add_assoc, zpow_add_one₀ (by norm_num), zpow_add₀ (by norm_num), zpow_natCast]
      simp only [Nat.add_sub_cancel]
      linarith

theorem unit_mul_le {m : ℕ} (hm : 52 ≤ m.log2) (e : ℤ) : 2 ^ 52 * (2 : ℚ) ^ (e + (m.log2 - 52 : ℕ)) ≤ m * 2 ^ e := by
  have hne : m ≠ 0 := by
    rintro rfl
    simp at hm
  have hpow : 2 ^ 52 * 2 ^ (m.log2 - 52) ≤ m := by
    rw [← pow_add, Nat.add_sub_cancel' hm]
    exact Nat.log2_self_le hne
  rw [add_comm e, zpow_add₀ (by norm_num), ← mul_assoc, zpow_natCast]
  gcongr
  exact_mod_cast hpow

theorem add_half_lt {v u : ℚ} (hv : v < overflow) (hu : u ≤ 2 ^ 971) : v + u / 2 < 2 ^ 1024 := by
  calc v + u / 2 < overflow + 2 ^ 971 / 2 :=
        add_lt_add_of_lt_of_le hv (div_le_div_of_nonneg_right hu (by norm_num))
    _ = 2 ^ 1024 := by
      rw [overflow, pow_succ (2 : ℚ) 970, mul_div_cancel_right₀ _ two_ne_zero, sub_add_cancel]

theorem unpack_pack_roundWithAccuracy (s : Sign) {m : ℕ} {e : ℤ} (hm : 52 ≤ m.log2) (he : 0 ≤ (m.log2 : ℤ) + e)
    (hoverflow : (m : ℚ) * 2 ^ e < overflow) :
    ∃ (m' : ℕ) (e' : ℤ) (hpos : 0 < m'), roundWithAccuracy Format.binary64 s m e .exact = .finite s m' e' hpos ∧
      (∃ s', (pack (.finite s m' e' hpos)).unpack = .finite s' m' e' hpos) ∧
      2 ^ 52 ≤ m' ∧ m' < 2 ^ 53 ∧ -52 ≤ e' ∧ e' ≤ 971 ∧
      (m' : ℚ) * 2 ^ e' = (shifted m (m.log2 - 52)).roundedMantissa * 2 ^ (e + (m.log2 - 52 : ℕ)) := by
  obtain ⟨m', e', hpos, hround, hlow, hhigh, he', hvalue⟩ := roundWithAccuracy_eq s (e := e) hm (by omega)
  have hhalf := value_shifted_le_half m (m.log2 - 52) e
  rw [← hvalue] at hhalf
  have htop : e + (m.log2 - 52 : ℕ) ≤ 971 := by
    apply exponent_le_of_lt ((unit_mul_le hm e).trans_lt hoverflow).le
    exact sub_lt_self _ (by positivity)
  have hlast : (2 : ℚ) ^ (e + (m.log2 - 52 : ℕ)) ≤ 2 ^ 971 := by
    exact_mod_cast zpow_le_zpow_right₀ (show (1 : ℚ) ≤ 2 by norm_num) htop
  -- Rounding up to the next power of two does not leave the exponents either.
  have hmost : e' ≤ 971 := by
    have hlow' : (2 ^ 52 : ℚ) ≤ m' := by exact_mod_cast hlow
    have hle : 2 ^ 52 * (2 : ℚ) ^ e' ≤ m' * 2 ^ e' := by gcongr
    exact exponent_le_of_lt (hle.trans hhalf) (add_half_lt hoverflow hlast)
  exact ⟨m', e', hpos, hround, unpack_pack s hpos hlow hhigh (by omega) hmost, hlow, hhigh, by omega, hmost, hvalue⟩

theorem pack_roundWithAccuracy (s : Sign) {m : ℕ} {e : ℤ} (hm : 52 ≤ m.log2) (he : 0 ≤ (m.log2 : ℤ) + e)
    (hoverflow : (m : ℚ) * 2 ^ e < overflow) :
    ∃ v, HasMagnitude (pack (roundWithAccuracy Format.binary64 s m e .exact)) v ∧
      v ≤ m * 2 ^ e * (1 + 1 / 2 ^ 53) ∧ (2 ^ (m.log2 - 52) ∣ m → v ≤ m * 2 ^ e) := by
  obtain ⟨m', e', hpos, hround, ⟨s', hunpack⟩, hlow, hhigh, he', hmost, hvalue⟩ :=
    unpack_pack_roundWithAccuracy s hm he hoverflow
  have hfine := value_shifted_le m (m.log2 - 52) e
  have hhalf := value_shifted_le_half m (m.log2 - 52) e
  have hunit := unit_mul_le hm e
  rw [← hvalue] at hfine hhalf
  refine ⟨m' * 2 ^ e', ⟨s', m', e', hpos, by rw [hround, hunpack], hlow, hhigh, he', hmost, rfl⟩, ?_, ?_⟩
  · linarith
  · intro hdvd
    simpa [hdvd] using hfine

namespace HasMagnitude

variable {x y : Float.Model} {v w : ℚ}

theorem mul_eq (x y : Float.Model) : x * y = pack (UnpackedFloat.mul Format.binary64 x.unpack y.unpack) := rfl

theorem log2_mul {m n : ℕ} (hm : 2 ^ 52 ≤ m) (hn : 2 ^ 52 ≤ n) : 104 ≤ (m * n).log2 := by
  rw [Nat.le_log2 (by positivity)]
  calc 2 ^ 104 = 2 ^ 52 * 2 ^ 52 := by norm_num
    _ ≤ m * n := Nat.mul_le_mul hm hn

theorem mul (hx : HasMagnitude x v) (hy : HasMagnitude y w) (h : v * w < overflow) :
    ∃ u, HasMagnitude (x * y) u := by
  obtain ⟨s, m, e, hpos, hunpack, hlow, -, he, -, rfl⟩ := hx
  obtain ⟨s', m', e', hpos', hunpack', hlow', -, he', -, rfl⟩ := hy
  have hlog := log2_mul hlow hlow'
  have hproduct : ((m * m' : ℕ) : ℚ) * 2 ^ (e + e') = m * 2 ^ e * (m' * 2 ^ e') := by
    rw [zpow_add₀ (by norm_num)]
    push_cast
    ring
  rw [← hproduct] at h
  obtain ⟨u, hu, -⟩ := pack_roundWithAccuracy (s * s') (m := m * m') (e := e + e') (by omega) (by omega) h
  refine ⟨u, ?_⟩
  rw [mul_eq, hunpack, hunpack']
  exact hu

theorem mul_one (hx : HasMagnitude x v) {one : Float.Model} {hpos : 0 < 2 ^ 52}
    (hone : one.unpack = .finite .positive (2 ^ 52) (-52) hpos) (h : v < overflow) :
    ∃ u, HasMagnitude (x * one) u ∧ u ≤ v := by
  obtain ⟨s, m, e, hpos', hunpack, hlow, hhigh, he, -, rfl⟩ := hx
  have hlog : (m * 2 ^ 52).log2 = 104 := by
    rw [log2_mul_two_pow hpos'.ne', (Nat.log2_eq_iff hpos'.ne').mpr ⟨hlow, hhigh⟩]
  have hproduct : ((m * 2 ^ 52 : ℕ) : ℚ) * 2 ^ (e + -52) = m * 2 ^ e := by
    rw [zpow_add₀ (by norm_num)]
    push_cast
    norm_num
    ring
  rw [← hproduct] at h ⊢
  obtain ⟨u, hu, -, hexact⟩ := pack_roundWithAccuracy (s * .positive) (m := m * 2 ^ 52) (e := e + -52) (by omega)
    (by omega) h
  rw [hlog] at hexact
  refine ⟨u, ?_, hexact (Nat.dvd_mul_left _ _)⟩
  rw [mul_eq, hunpack, hone]
  exact hu

end HasMagnitude

theorem pow_lt_overflow {e : ℕ} (he : e ≤ 308) : (10 ^ e : ℚ) < overflow := by
  have hlarge : 10 ^ 308 + 2 ^ 970 < 2 ^ 1024 := by decide +kernel
  have hlarge' : (10 ^ 308 : ℚ) + 2 ^ 970 < 2 ^ 1024 := by exact_mod_cast hlarge
  have hle : (10 ^ e : ℚ) ≤ 10 ^ 308 := pow_le_pow_right₀ (by norm_num) he
  exact lt_of_le_of_lt hle (lt_sub_iff_add_lt.mpr hlarge')

theorem HasMagnitude.pos {x : Float.Model} {v : ℚ} (h : HasMagnitude x v) : 0 < v := by
  obtain ⟨s, m, e, hpos, -, -, -, -, -, rfl⟩ := h
  positivity

def slack : ℚ := 1 + 1 / 2 ^ 53

theorem mul_finite (s s' : Sign) (m m' : ℕ) (e e' : ℤ) (hpos : 0 < m) (hpos' : 0 < m') :
    UnpackedFloat.mul Format.binary64 (.finite s m e hpos) (.finite s' m' e' hpos') =
      roundWithAccuracy Format.binary64 (s * s') (m * m') (e + e') .exact := rfl

theorem ofScientific_eq {m e : ℕ} (hm : 0 < m) (he : e ≤ 308) :
    UnpackedFloat.ofScientific Format.binary64 m e =
      roundWithAccuracy Format.binary64 (Sign.positive * .positive) (m * 2 ^ 53 * 10 ^ e) (-53) .exact := by
  have hbits : Format.binary64.mantissaBits = 53 := rfl
  have hcap : ¬(e : ℤ) > 2 ^ Format.binary64.exponentBits := by
    norm_num
    omega
  have hneg : ¬(e : ℤ) < -((2 ^ Format.binary64.exponentBits : ℤ) + m.log2) := by
    norm_num
    omega
  unfold UnpackedFloat.ofScientific
  rw [dif_neg hm.ne', if_neg hcap, if_neg hneg, if_pos (Int.natCast_nonneg e), mul_finite, Int.toNat_natCast, hbits,
    Nat.shiftLeft_eq, Nat.cast_ofNat, add_zero]

theorem ofScientific_magnitude {m e : ℕ} (hm : 0 < m) (he : e ≤ 308) (h : (m * 10 ^ e : ℚ) < overflow) :
    ∃ v, HasMagnitude (Float.Model.ofScientific m e) v ∧ v ≤ m * 10 ^ e * slack := by
  have hlog : 53 ≤ (m * 2 ^ 53 * 10 ^ e).log2 := by
    rw [Nat.le_log2 (by positivity)]
    calc 2 ^ 53 ≤ m * 2 ^ 53 := Nat.le_mul_of_pos_left _ hm
      _ ≤ m * 2 ^ 53 * 10 ^ e := Nat.le_mul_of_pos_right _ (by positivity)
  have hvalue : ((m * 2 ^ 53 * 10 ^ e : ℕ) : ℚ) * 2 ^ (-53 : ℤ) = m * 10 ^ e := by
    rw [zpow_neg]
    push_cast
    field_simp
  rw [← hvalue] at h ⊢
  obtain ⟨v, hv, hle, -⟩ := pack_roundWithAccuracy (Sign.positive * .positive) (m := m * 2 ^ 53 * 10 ^ e) (e := -53)
    (by omega) (by omega) h
  rw [← ofScientific_eq hm he] at hv
  exact ⟨v, hv, hle⟩

theorem lt_overflow_of_lt {n : ℕ} (h : n < 2 ^ 64) : (n : ℚ) < overflow := by
  have hle : n ≤ 10 ^ 20 := by omega
  have hle' : (n : ℚ) ≤ 10 ^ 20 := by exact_mod_cast hle
  exact lt_of_le_of_lt hle' (pow_lt_overflow (by omega))

theorem toFloat_magnitude {n : ℕ} (hn : 0 < n) (h : n < 2 ^ 53) :
    ∃ v, HasMagnitude n.toUInt64.toFloat.toModel v ∧ v ≤ n := by
  have hlog : n.log2 < 53 := (Nat.log2_lt hn.ne').mpr h
  have hmodel : n.toUInt64.toFloat.toModel = pack (UnpackedFloat.round Format.binary64 .positive n 0) := by
    have hnat : n.toUInt64.toNat = n := Nat.mod_eq_of_lt (by omega)
    change pack (UnpackedFloat.normalize Format.binary64 (n.toUInt64.toNat : ℤ) 0 .positive) = _
    have hcompare : compare (n : ℤ) 0 = .gt := Int.compare_eq_gt.mpr (by omega)
    rw [hnat, UnpackedFloat.normalize, hcompare]
    simp only [Int.toNat_natCast]
  have htarget := targetExponent_eq (m := n) (e := 0) (by omega)
  have hshift : (0 - ((n.log2 : ℤ) - 52 + 0)).toNat = 52 - n.log2 := by omega
  have hround : UnpackedFloat.round Format.binary64 .positive n 0 =
      roundWithAccuracy Format.binary64 .positive (n * 2 ^ (52 - n.log2)) (0 - (52 - n.log2 : ℕ)) .exact := by
    simp only [UnpackedFloat.round, decreaseExponent, htarget, hshift, Nat.shiftLeft_eq]
  have hlog' : (n * 2 ^ (52 - n.log2)).log2 = 52 := by
    rw [log2_mul_two_pow hn.ne']
    omega
  have hvalue : ((n * 2 ^ (52 - n.log2) : ℕ) : ℚ) * 2 ^ (0 - (52 - n.log2 : ℕ) : ℤ) = n := by
    rw [zero_sub, zpow_neg, zpow_natCast]
    push_cast
    field_simp
  obtain ⟨v, hv, -, hexact⟩ := pack_roundWithAccuracy .positive (m := n * 2 ^ (52 - n.log2))
    (e := 0 - (52 - n.log2 : ℕ)) (by omega) (by omega) (by rw [hvalue]; exact lt_overflow_of_lt (by omega))
  rw [hvalue, hlog', Nat.sub_self] at hexact
  rw [hmodel, hround]
  exact ⟨v, hv, hexact (by simp)⟩

theorem ofNat_magnitude {n : ℕ} (hn : 0 < n) (h : n < 2 ^ 64) :
    ∃ v, HasMagnitude (Float.ofNat n).toModel v ∧ v ≤ n * slack := by
  have hslack : (n : ℚ) ≤ n * slack := le_mul_of_one_le_right (by positivity) (by norm_num [slack])
  by_cases hsmall : n < 2 ^ 53
  · obtain ⟨v, hv, hle⟩ := toFloat_magnitude hn hsmall
    have hone : (Float.exactlyRepresentablePowersOfTen[0].toModel).unpack =
        .finite .positive (2 ^ 52) (-52) (by decide) := by rfl
    obtain ⟨u, hu, hle'⟩ := hv.mul_one hone (lt_of_le_of_lt hle (lt_overflow_of_lt h))
    have hmodel : (Float.ofNat n).toModel =
        n.toUInt64.toFloat.toModel * Float.exactlyRepresentablePowersOfTen[0].toModel := by
      change (Float.ofScientific n false 0).toModel = _
      unfold Float.ofScientific
      rw [dif_pos ⟨hsmall, by omega⟩]
      rfl
    rw [hmodel]
    exact ⟨u, hu, (hle'.trans hle).trans hslack⟩
  · obtain ⟨v, hv, hle⟩ := ofScientific_magnitude (e := 0) hn (by omega) (by simpa using lt_overflow_of_lt h)
    have hmodel : (Float.ofNat n).toModel = Float.Model.ofScientific n 0 := by
      change (Float.ofScientific n false 0).toModel = _
      unfold Float.ofScientific
      rw [dif_neg (by omega)]
      rfl
    rw [hmodel]
    exact ⟨v, hv, by simpa using hle⟩

theorem isNaN_ofInt {n : ℤ} (h : n.natAbs < 2 ^ 64) : (Float.ofInt n).isNaN = false := by
  cases n with
  | ofNat n =>
    rcases Nat.eq_zero_or_pos n with rfl | hpos
    · rfl
    · obtain ⟨v, ⟨s, m, e, hm, hunpack, -⟩, -⟩ := ofNat_magnitude hpos h
      change UnpackedFloat.isNaN (Float.ofNat n).toModel.unpack = false
      rw [hunpack]
      rfl
  | negSucc n =>
    obtain ⟨v, ⟨s, m, e, hm, hunpack, hlow, hhigh, he, hmost, -⟩, -⟩ := ofNat_magnitude n.succ_pos h
    obtain ⟨s', hneg⟩ := unpack_pack (-s) hm hlow hhigh he hmost
    change UnpackedFloat.isNaN (pack (Float.ofNat n.succ).toModel.unpack.neg).unpack = false
    rw [hunpack]
    change UnpackedFloat.isNaN (pack (.finite (-s) m e hm)).unpack = false
    rw [hneg]
    rfl

theorem power_eq : ∀ e : Fin 23, (Float.ofScientific 1 false e).toModel = Float.Model.ofScientific 1 e := by
  decide +kernel

theorem power_magnitude {e : ℕ} (he : e ≤ 308) :
    ∃ v, HasMagnitude (Float.ofScientific 1 false e).toModel v ∧ v ≤ 10 ^ e * slack := by
  have hmodel : (Float.ofScientific 1 false e).toModel = Float.Model.ofScientific 1 e := by
    by_cases hsmall : e < 23
    · exact power_eq ⟨e, hsmall⟩
    · unfold Float.ofScientific
      rw [dif_neg (by omega)]
      rfl
  obtain ⟨v, hv, hle⟩ := ofScientific_magnitude (m := 1) (by omega) he (by simpa using pow_lt_overflow he)
  rw [hmodel]
  exact ⟨v, hv, by simpa using hle⟩

theorem isInf_mul (x y : Float) : (x * y).isInf =
    (pack (UnpackedFloat.mul Format.binary64 x.toModel.unpack y.toModel.unpack)).unpack.isInf := rfl

def safe : ℚ := 2 ^ 1024 - 5 * 2 ^ 970

theorem safe_lt : safe < 10 ^ 309 := by
  have hsmall : 2 ^ 1024 < 10 ^ 309 := by decide +kernel
  have hsmall' : (2 ^ 1024 : ℚ) < 10 ^ 309 := by exact_mod_cast hsmall
  exact lt_of_le_of_lt (sub_le_self _ (by positivity)) hsmall'

/-- The number and the power of ten are rounded before their product is, so the bound leaves room for three
roundings. -/
theorem product_isInf {n e : ℕ} (hn : 0 < n) (h : n < 2 ^ 64) (he : e ≤ 308) (hbound : (n * 10 ^ e : ℚ) ≤ safe) :
    (Float.ofNat n * Float.ofScientific 1 false e).isInf = false := by
  obtain ⟨v, hv, hvle⟩ := ofNat_magnitude hn h
  obtain ⟨w, hw, hwle⟩ := power_magnitude he
  have hproduct : v * w < overflow := by
    have hpower : (2 : ℚ) ^ 1024 = 2 ^ 54 * 2 ^ 970 := by rw [← pow_add]
    rw [safe, hpower] at hbound
    have hX : (0 : ℚ) < 2 ^ 970 := by positivity
    have hslack : ((2 : ℚ) ^ 54 - 5) * slack ^ 2 < 2 ^ 54 - 1 := by norm_num [slack]
    calc v * w ≤ n * slack * (10 ^ e * slack) :=
          mul_le_mul hvle hwle hw.pos.le (by unfold slack; positivity)
      _ = n * 10 ^ e * slack ^ 2 := by ring
      _ ≤ (2 ^ 54 * 2 ^ 970 - 5 * 2 ^ 970) * slack ^ 2 :=
          mul_le_mul_of_nonneg_right hbound (by unfold slack; positivity)
      _ = (2 ^ 54 - 5) * slack ^ 2 * 2 ^ 970 := by rw [← sub_mul]; exact mul_right_comm _ _ _
      _ < (2 ^ 54 - 1) * 2 ^ 970 := mul_lt_mul_of_pos_right hslack hX
      _ = overflow := by rw [sub_mul, one_mul, ← hpower, overflow]
  obtain ⟨u, s, m, x, hpos, hunpack, -⟩ := hv.mul hw hproduct
  rw [isInf_mul, ← HasMagnitude.mul_eq, hunpack]
  rfl

theorem unpack_ofNat_zero : (Float.ofNat 0).toModel.unpack = .zero .positive := rfl

theorem zero_mul_finite (s s' : Sign) (m : ℕ) (e : ℤ) (hpos : 0 < m) :
    UnpackedFloat.mul Format.binary64 (.zero s) (.finite s' m e hpos) = .zero (s * s') := rfl

theorem isInf_pack_zero (s : Sign) : (Float.Model.pack (.zero s)).unpack.isInf = false := by
  cases s <;> decide

theorem zero_mul_isInf {e : ℕ} (he : e ≤ 308) :
    (Float.ofNat 0 * Float.ofScientific 1 false e).isInf = false := by
  obtain ⟨v, ⟨s, m, x, hpos, hunpack, -⟩, -⟩ := power_magnitude he
  rw [isInf_mul, unpack_ofNat_zero, hunpack, zero_mul_finite]
  exact isInf_pack_zero _

end PortfolioReports.Numeric
