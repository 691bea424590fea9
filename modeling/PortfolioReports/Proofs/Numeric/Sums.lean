import Mathlib
import PortfolioReports.Proofs.Numeric.Rounding

/-!
A number of 53 digits is not passed by what is rounded from above it, so floats that are added up never decrease.
-/

namespace PortfolioReports.Numeric

open Float.Model Float.Model.UnpackedFloat

theorem sign_of_unpack {bits : BitVec Format.binary64.numBits} {s : Sign} {m : ℕ} {e : ℤ} {hpos : 0 < m}
    (h : UnpackedFloat.unpack Format.binary64 bits = .finite s m e hpos) : Sign.ofBitVec (unpackSign bits) = s := by
  unfold UnpackedFloat.unpack at h
  dsimp only at h
  split_ifs at h <;> cases h <;> rfl

theorem sign_of_unpack_pack {s s' : Sign} {m m' : ℕ} {e e' : ℤ} {hpos : 0 < m} {hpos' : 0 < m'}
    (h : (pack (.finite s m e hpos)).unpack = .finite s' m' e' hpos') : s' = s := by
  rw [← sign_of_unpack h]
  change Sign.ofBitVec (unpackSign (UnpackedFloat.pack Format.binary64 (.finite s m e hpos))) = s
  rw [pack_finite_eq, packedInfinity]
  split_ifs <;> rw [UnpackedFloat.unpackSign_packComponents, Sign.ofBitVec_toBitVec]

/-- The float is a normal one, not below one, of this value. -/
def Measures (x : Float) (v : ℚ) : Prop :=
  ∃ (m : ℕ) (e : ℤ) (hpos : 0 < m), x.toModel.unpack = .finite .positive m e hpos ∧ 2 ^ 52 ≤ m ∧ m < 2 ^ 53 ∧
    -52 ≤ e ∧ e ≤ 971 ∧ (m : ℚ) * 2 ^ e = v

namespace Measures

variable {x y : Float} {v w : ℚ}

theorem le_iff_unpack : x ≤ y ↔ x.toModel.unpack.le y.toModel.unpack = true := decide_eq_true_iff

theorem lt_iff_unpack : x < y ↔ x.toModel.unpack.lt y.toModel.unpack = true := decide_eq_true_iff

theorem one_le (h : Measures x v) : 1 ≤ v := by
  obtain ⟨m, e, -, -, hlow, -, he, -, rfl⟩ := h
  have hm : (2 ^ 52 : ℚ) ≤ m := by exact_mod_cast hlow
  have hexp : (2 : ℚ) ^ (-52 : ℤ) ≤ 2 ^ e := zpow_le_zpow_right₀ (by norm_num) he
  calc (1 : ℚ) = 2 ^ 52 * 2 ^ (-52 : ℤ) := by norm_num
    _ ≤ m * 2 ^ e := mul_le_mul hm hexp (by positivity) (by positivity)

theorem nonneg (h : Measures x v) : 0 ≤ x := by
  obtain ⟨m, e, hpos, hunpack, -⟩ := h
  rw [le_iff_unpack, hunpack]
  rfl

theorem le_greatest (h : Measures x v) : v ≤ (2 ^ 53 - 1) * 2 ^ 971 := by
  obtain ⟨m, e, -, -, -, hhigh, -, he, rfl⟩ := h
  have hm : (m : ℚ) ≤ 2 ^ 53 - 1 := by
    rw [le_sub_iff_add_le]
    exact_mod_cast hhigh
  have hexp : (2 : ℚ) ^ e ≤ 2 ^ 971 := by
    exact_mod_cast zpow_le_zpow_right₀ (show (1 : ℚ) ≤ 2 by norm_num) he
  exact mul_le_mul hm hexp (by positivity) (by norm_num)

theorem mul_lt_mul_of_exponent_lt {m n : ℕ} {e f : ℤ} (hm : m < 2 ^ 53) (hn : 2 ^ 52 ≤ n) (h : e < f) :
    (m : ℚ) * 2 ^ e < n * 2 ^ f := by
  have hm' : (m : ℚ) < 2 ^ 53 := by exact_mod_cast hm
  have hn' : (2 ^ 52 : ℚ) ≤ n := by exact_mod_cast hn
  calc (m : ℚ) * 2 ^ e < 2 ^ 53 * 2 ^ e := by gcongr
    _ = 2 ^ 52 * 2 ^ (e + 1) := by
      rw [zpow_add_one₀ (by norm_num)]
      ring
    _ ≤ n * 2 ^ f := by
      have hexp : (2 : ℚ) ^ (e + 1) ≤ 2 ^ f := zpow_le_zpow_right₀ (by norm_num) h
      gcongr

theorem compare_eq (hx : Measures x v) (hy : Measures y w) :
    x.toModel.unpack.compare y.toModel.unpack = some (compare v w) := by
  obtain ⟨m, e, hpos, hunpack, hlow, hhigh, -, -, rfl⟩ := hx
  obtain ⟨n, f, hpos', hunpack', hlow', hhigh', -, -, rfl⟩ := hy
  rw [hunpack, hunpack']
  change some ((compare e f).then (compare m n)) = _
  congr 1
  rcases lt_trichotomy e f with hlt | rfl | hgt
  · rw [compare_lt_iff_lt.mpr hlt, compare_lt_iff_lt.mpr (mul_lt_mul_of_exponent_lt hhigh hlow' hlt)]
    rfl
  · have hscale : (0 : ℚ) < 2 ^ e := by positivity
    rw [compare_eq_iff_eq.mpr rfl, Ordering.eq_then]
    rcases lt_trichotomy m n with hless | rfl | hmore
    · have hless' : (m : ℚ) < n := by exact_mod_cast hless
      rw [compare_lt_iff_lt.mpr hless, compare_lt_iff_lt.mpr (mul_lt_mul_of_pos_right hless' hscale)]
    · rw [compare_eq_iff_eq.mpr rfl, compare_eq_iff_eq.mpr rfl]
    · have hmore' : (n : ℚ) < m := by exact_mod_cast hmore
      rw [compare_gt_iff_gt.mpr hmore, compare_gt_iff_gt.mpr (mul_lt_mul_of_pos_right hmore' hscale)]
  · rw [compare_gt_iff_gt.mpr hgt, compare_gt_iff_gt.mpr (mul_lt_mul_of_exponent_lt hhigh' hlow hgt)]
    rfl

theorem le_iff (hx : Measures x v) (hy : Measures y w) : x ≤ y ↔ v ≤ w := by
  rw [le_iff_unpack, UnpackedFloat.le, hx.compare_eq hy, ← compare_le_iff_le]
  exact Ordering.isLE_iff_ne_gt

theorem lt_iff (hx : Measures x v) (hy : Measures y w) : x < y ↔ v < w := by
  rw [lt_iff_unpack, UnpackedFloat.lt, hx.compare_eq hy, ← compare_lt_iff_lt, beq_iff_eq, Option.some_inj]

/-- What is rounded does not pass a number of 53 digits on its way down, and such a number is left as it is. -/
theorem roundWithAccuracy {m : ℕ} {e : ℤ} (hm : 52 ≤ m.log2) (he : 0 ≤ (m.log2 : ℤ) + e)
    (hoverflow : (m : ℚ) * 2 ^ e < overflow) :
    ∃ u, Measures ⟨pack (UnpackedFloat.roundWithAccuracy Format.binary64 .positive m e .exact)⟩ u ∧
      ∀ (n : ℕ) (f : ℤ), n < 2 ^ 53 → (n : ℚ) * 2 ^ f ≤ m * 2 ^ e →
        (n : ℚ) * 2 ^ f ≤ u ∧ ((n : ℚ) * 2 ^ f = m * 2 ^ e → u = m * 2 ^ e) := by
  obtain ⟨m', e', hpos, hround, ⟨s', hunpack⟩, hlow, hhigh, he', hmost, hvalue⟩ :=
    unpack_pack_roundWithAccuracy .positive hm he hoverflow
  obtain rfl := sign_of_unpack_pack hunpack
  refine ⟨m' * 2 ^ e', ⟨m', e', hpos, by rw [hround, hunpack], hlow, hhigh, he', hmost, rfl⟩, fun n f hn hle => ?_⟩
  have hbounds := (roundedMantissa_shifted_bounds hm).1
  have hfloor : m / 2 ^ (m.log2 - 52) ≤ (shifted m (m.log2 - 52)).roundedMantissa := by
    have hmantissa : (shifted m (m.log2 - 52)).mantissa = m / 2 ^ (m.log2 - 52) := mantissa_shiftRight _ _
    exact hmantissa ▸ le_roundedMantissa _
  have hexact : 2 ^ (m.log2 - 52) ∣ m → (m' : ℚ) * 2 ^ e' ≤ m * 2 ^ e := fun hdvd => by
    simpa [hvalue, hdvd] using value_shifted_le m (m.log2 - 52) e
  have hunit := unit_mul_le hm e
  rw [hvalue] at hexact ⊢
  generalize (shifted m (m.log2 - 52)).roundedMantissa = r at *
  generalize m.log2 - 52 = k at *
  rcases lt_or_ge f (e + k) with hlt | hge
  · have hless := mul_lt_mul_of_exponent_lt hn hbounds hlt
    refine ⟨hless.le, fun heq => absurd heq (ne_of_lt ?_)⟩
    have hunit' := mul_lt_mul_of_exponent_lt hn (n := 2 ^ 52) le_rfl hlt
    push_cast at hunit'
    exact hunit'.trans_le hunit
  · -- Both are multiples of the last place, and the greater one has only been cut off there.
    obtain ⟨j, hj⟩ := Int.eq_ofNat_of_zero_le (sub_nonneg.mpr hge)
    obtain rfl : f = e + k + j := by omega
    have hscale : (0 : ℚ) < 2 ^ e := by positivity
    have hpow : (n : ℚ) * 2 ^ (e + k + j) = (n * 2 ^ j : ℕ) * 2 ^ (e + k) := by
      rw [zpow_add₀ (by norm_num)]
      push_cast
      rw [zpow_natCast]
      ring
    have hplaces : (n : ℚ) * 2 ^ (e + k + j) = (n * 2 ^ j * 2 ^ k : ℕ) * 2 ^ e := by
      rw [hpow, zpow_add₀ (by norm_num), zpow_natCast]
      push_cast
      ring
    have hmul : n * 2 ^ j * 2 ^ k ≤ m := by
      rw [hplaces, mul_le_mul_iff_left₀ hscale] at hle
      exact_mod_cast hle
    have hr : n * 2 ^ j ≤ r := ((Nat.le_div_iff_mul_le (by positivity)).mpr hmul).trans hfloor
    have hle' : (n : ℚ) * 2 ^ (e + k + j) ≤ r * 2 ^ (e + k) := by
      rw [hpow]
      gcongr
    refine ⟨hle', fun heq => le_antisymm (hexact ⟨n * 2 ^ j, ?_⟩) (heq ▸ hle')⟩
    rw [hplaces, mul_left_inj' hscale.ne', Nat.cast_inj] at heq
    rw [← heq, mul_comm]

theorem add_eq (x y : Float) :
    x + y = ⟨pack (UnpackedFloat.add Format.binary64 x.toModel.unpack y.toModel.unpack)⟩ := rfl

theorem add_finite {m n : ℕ} {e f : ℤ} (hpos : 0 < m) (hpos' : 0 < n) (hlow : 2 ^ 52 ≤ m) (he : -52 ≤ e)
    (hf : -52 ≤ f) : ∃ (k : ℕ) (g : ℤ), UnpackedFloat.add Format.binary64 (.finite .positive m e hpos)
        (.finite .positive n f hpos') = UnpackedFloat.roundWithAccuracy Format.binary64 .positive k g .exact ∧
      52 ≤ k.log2 ∧ -52 ≤ g ∧ (k : ℚ) * 2 ^ g = m * 2 ^ e + n * 2 ^ f := by
  obtain ⟨g, hg⟩ : ∃ g, g = min e f := ⟨_, rfl⟩
  obtain ⟨a, ha⟩ : ∃ a : ℕ, a = (e - g).toNat := ⟨_, rfl⟩
  obtain ⟨b, hb⟩ : ∃ b : ℕ, b = (f - g).toNat := ⟨_, rfl⟩
  have hlarge : 2 ^ 52 ≤ m * 2 ^ a + n * 2 ^ b :=
    (hlow.trans (Nat.le_mul_of_pos_right _ (by positivity))).trans (Nat.le_add_right _ _)
  have hlog : 52 ≤ (m * 2 ^ a + n * 2 ^ b).log2 := (Nat.le_log2 (by omega)).mpr hlarge
  refine ⟨m * 2 ^ a + n * 2 ^ b, g, ?_, hlog, by omega, ?_⟩
  · have hadd : UnpackedFloat.add Format.binary64 (.finite .positive m e hpos) (.finite .positive n f hpos') =
        UnpackedFloat.normalize Format.binary64 ((m * 2 ^ a + n * 2 ^ b : ℕ) : ℤ) g .positive := by
      simp only [UnpackedFloat.add, decreaseExponent, Sign.apply, ← hg, ← ha, ← hb, Nat.shiftLeft_eq, Nat.cast_add]
    have hcompare : compare ((m * 2 ^ a + n * 2 ^ b : ℕ) : ℤ) 0 = .gt := Int.compare_eq_gt.mpr (by omega)
    have htarget := targetExponent_eq (m := m * 2 ^ a + n * 2 ^ b) (e := g) (by omega)
    have hshift : (g - (((m * 2 ^ a + n * 2 ^ b).log2 : ℤ) - 52 + g)).toNat = 0 := by omega
    rw [hadd, UnpackedFloat.normalize, hcompare]
    simp only [UnpackedFloat.round, decreaseExponent, Int.toNat_natCast, htarget, hshift, Nat.shiftLeft_zero,
      Nat.cast_zero, sub_zero]
  · have hscale : ∀ (h : ℤ) (c : ℕ), g ≤ h → c = (h - g).toNat → (2 : ℚ) ^ c * 2 ^ g = 2 ^ h := by
      intro h c hle hc
      rw [← zpow_natCast, ← zpow_add₀ (by norm_num)]
      congr 1
      omega
    push_cast
    rw [add_mul, mul_assoc, mul_assoc, hscale e a (by omega) ha, hscale f b (by omega) hb]

theorem add_rounded (hx : Measures x v) (hy : Measures y w) (h : v + w < overflow) :
    ∃ u, Measures (x + y) u ∧ ∀ (n : ℕ) (f : ℤ), n < 2 ^ 53 → (n : ℚ) * 2 ^ f ≤ v + w →
      (n : ℚ) * 2 ^ f ≤ u ∧ ((n : ℚ) * 2 ^ f = v + w → u = v + w) := by
  obtain ⟨m, e, hpos, hunpack, hlow, -, he, -, rfl⟩ := hx
  obtain ⟨n, f, hpos', hunpack', -, -, hf, -, rfl⟩ := hy
  obtain ⟨k, g, hadd, hlog, hg, hvalue⟩ := add_finite hpos hpos' hlow he hf
  rw [← hvalue] at h ⊢
  rw [add_eq, hunpack, hunpack', hadd]
  exact roundWithAccuracy hlog (by omega) h

theorem add (hx : Measures x v) (hy : Measures y w) (h : v + w < overflow) :
    ∃ u, Measures (x + y) u ∧ v ≤ u ∧ w ≤ u := by
  obtain ⟨u, hu, hle⟩ := add_rounded hx hy h
  have hv := hx.one_le
  have hw := hy.one_le
  obtain ⟨m, e, -, -, -, hm, -, -, rfl⟩ := hx
  obtain ⟨n, f, -, -, -, hn, -, -, rfl⟩ := hy
  exact ⟨u, hu, (hle m e hm (by linarith)).1, (hle n f hn (by linarith)).1⟩

theorem add_natCast {a b : ℕ} (hx : Measures x a) (hy : Measures y b) (h : a + b < 2 ^ 53) :
    Measures (x + y) (a + b : ℕ) := by
  have hoverflow : (a + b : ℚ) < overflow := by
    exact_mod_cast lt_overflow_of_lt (n := a + b) (by omega)
  obtain ⟨u, hu, hle⟩ := add_rounded hx hy hoverflow
  obtain ⟨-, hexact⟩ := hle (a + b) 0 h (by simp)
  rw [Nat.cast_add]
  exact hexact (by simp) ▸ hu

end Measures

theorem isNaN_iff_unpack {x : Float} : x.isNaN = true ↔ x.toModel.unpack = .notANumber := by
  change UnpackedFloat.isNaN x.toModel.unpack = true ↔ _
  cases x.toModel.unpack <;> simp [UnpackedFloat.isNaN]

theorem unpack_pack_notANumber : (pack .notANumber).unpack = .notANumber := unpack_packedNaN

theorem isNaN_add_left {x : Float} (h : x.isNaN = true) (y : Float) : (x + y).isNaN = true := by
  rw [isNaN_iff_unpack] at h ⊢
  rw [Measures.add_eq, h]
  exact unpack_pack_notANumber

theorem isNaN_add_right (x : Float) {y : Float} (h : y.isNaN = true) : (x + y).isNaN = true := by
  rw [isNaN_iff_unpack] at h ⊢
  rw [Measures.add_eq, h]
  cases x.toModel.unpack <;> exact unpack_pack_notANumber

theorem not_le_of_isNaN {x : Float} (h : x.isNaN = true) (y : Float) : ¬x ≤ y := by
  rw [isNaN_iff_unpack] at h
  rw [Measures.le_iff_unpack, h]
  exact Bool.false_ne_true

theorem normal_of_unpack {bits : BitVec Format.binary64.numBits} {s : Sign} {m : ℕ} {e : ℤ} {hpos : 0 < m}
    (h : UnpackedFloat.unpack Format.binary64 bits = .finite s m e hpos) (he : -1074 < e) :
    2 ^ 52 ≤ m ∧ m < 2 ^ 53 := by
  have hbias : Format.binary64.exponentBias = 1023 := by decide
  unfold UnpackedFloat.unpack at h
  dsimp only at h
  split_ifs at h
  · rename_i hzero hmantissa
    have hexponent : (unpackExponent bits).toNat = 0 := congrArg BitVec.toNat hzero
    cases h
    omega
  · have hlt := (unpackMantissa bits).isLt
    have hlead : (1#1 ++ unpackMantissa bits).toNat = 2 ^ 52 + (unpackMantissa bits).toNat := by
      rw [BitVec.toNat_append, ← Nat.shiftLeft_add_eq_or_of_lt hlt, Nat.shiftLeft_eq]
      exact congrArg (· + _) (Nat.one_mul _)
    cases h
    rw [hlead]
    change (unpackMantissa bits).toNat < 2 ^ 52 at hlt
    omega

theorem Measures.between {x y z : Float} {v w : ℚ} (hy : Measures y v) (hz : Measures z w) (hlow : ¬x < y)
    (hhigh : ¬z < x) : x.isNaN = true ∨ ∃ u, Measures x u ∧ v ≤ u ∧ u ≤ w := by
  suffices h : x.isNaN = true ∨ ∃ u, Measures x u by
    refine h.imp_right fun ⟨u, hu⟩ => ⟨u, hu, ?_, ?_⟩
    · rwa [hu.lt_iff hy, not_lt] at hlow
    · rwa [hz.lt_iff hu, not_lt] at hhigh
  obtain ⟨m, e, hpos, hunpack, -, -, he, -, -⟩ := hy
  obtain ⟨n, f, hpos', hunpack', -, -, -, hf, -⟩ := hz
  rw [lt_iff_unpack, hunpack] at hlow
  rw [lt_iff_unpack, hunpack'] at hhigh
  rw [isNaN_iff_unpack]
  unfold Measures
  cases hx : x.toModel.unpack with
  | notANumber => exact .inl rfl
  | infinity s =>
    rw [hx] at hlow hhigh
    cases s with
    | negative => exact absurd rfl hlow
    | positive => exact absurd rfl hhigh
  | zero s => exact absurd (hx ▸ rfl) hlow
  | finite s k g hpos =>
    rw [hx] at hlow hhigh
    cases s with
    | negative => exact absurd rfl hlow
    | positive =>
      have hge : e ≤ g := by
        by_contra hlt
        exact hlow (by simp [UnpackedFloat.lt, UnpackedFloat.compare, compare_lt_iff_lt.mpr (not_le.mp hlt)])
      have hle : g ≤ f := by
        by_contra hgt
        exact hhigh (by simp [UnpackedFloat.lt, UnpackedFloat.compare, compare_lt_iff_lt.mpr (not_le.mp hgt)])
      obtain ⟨hk, hk'⟩ := normal_of_unpack hx (by omega)
      exact .inr ⟨k * 2 ^ g, k, g, hpos, rfl, hk, hk', by omega, by omega, rfl⟩

end PortfolioReports.Numeric
