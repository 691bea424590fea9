import Mathlib
import PortfolioReports.Proofs.Numeric.Rounding

namespace PortfolioReports.Numeric

open Float.Model Float.Model.UnpackedFloat

theorem roundWithAccuracy_neg (f : Format) (s : Sign) (m : ℕ) (e : ℤ) (a : Accuracy) :
    roundWithAccuracy f (-s) m e a = (roundWithAccuracy f s m e a).neg := by
  unfold roundWithAccuracy
  dsimp only
  split <;> rfl

theorem round_neg (f : Format) (s : Sign) (m : ℕ) (e : ℤ) :
    UnpackedFloat.round f (-s) m e = (UnpackedFloat.round f s m e).neg :=
  roundWithAccuracy_neg ..

theorem normalize_neg (f : Format) {m : ℤ} (hm : m ≠ 0) (e : ℤ) (s : Sign) :
    UnpackedFloat.normalize f (-m) e s = (UnpackedFloat.normalize f m e s).neg := by
  rcases lt_or_gt_of_ne hm with hneg | hpos
  · have hcompare : compare m 0 = .lt := compare_lt_iff_lt.mpr hneg
    have hcompare' : compare (-m) 0 = .gt := compare_gt_iff_gt.mpr (neg_pos.mpr hneg)
    rw [UnpackedFloat.normalize, UnpackedFloat.normalize, hcompare, hcompare']
    exact round_neg f .negative _ e
  · have hcompare : compare m 0 = .gt := compare_gt_iff_gt.mpr hpos
    have hcompare' : compare (-m) 0 = .lt := compare_lt_iff_lt.mpr (neg_neg_of_pos hpos)
    rw [UnpackedFloat.normalize, UnpackedFloat.normalize, hcompare, hcompare', neg_neg]
    exact round_neg f .positive _ e

theorem sub_swap_finite (f : Format) (s s' : Sign) (m m' : ℕ) (e e' : ℤ) (hm : 0 < m) (hm' : 0 < m') :
    UnpackedFloat.sub f (.finite s' m' e' hm') (.finite s m e hm) =
        (UnpackedFloat.sub f (.finite s m e hm) (.finite s' m' e' hm')).neg ∨
      UnpackedFloat.sub f (.finite s m e hm) (.finite s' m' e' hm') = .zero .positive ∧
        UnpackedFloat.sub f (.finite s' m' e' hm') (.finite s m e hm) = .zero .positive := by
  simp only [UnpackedFloat.sub, min_comm e' e]
  generalize s.apply ((decreaseExponent m e (min e e')).1 : ℤ) = a
  generalize s'.apply ((decreaseExponent m' e' (min e e')).1 : ℤ) = b
  rw [← neg_sub a b]
  by_cases h : a - b = 0
  · rw [h]
    exact .inr ⟨rfl, rfl⟩
  · exact .inl (normalize_neg f h _ _)

theorem sub_swap (f : Format) (u v : UnpackedFloat) :
    UnpackedFloat.sub f v u = (UnpackedFloat.sub f u v).neg ∨
      UnpackedFloat.sub f u v = .zero .positive ∧ UnpackedFloat.sub f v u = .zero .positive := by
  cases u with
  | notANumber => cases v <;> exact .inl rfl
  | infinity s =>
    cases v with
    | infinity s' => cases s <;> cases s' <;> exact .inl rfl
    | _ => exact .inl rfl
  | zero s =>
    cases v with
    | zero s' => cases s <;> cases s' <;> first | exact .inl rfl | exact .inr ⟨rfl, rfl⟩
    | finite s' m e hm => cases s' <;> exact .inl rfl
    | infinity s' => cases s' <;> exact .inl rfl
    | notANumber => exact .inl rfl
  | finite s m e hm =>
    cases v with
    | finite s' m' e' hm' => exact sub_swap_finite ..
    | infinity s' => cases s' <;> exact .inl rfl
    | _ => exact .inl rfl

def flipped (bits : BitVec Format.binary64.numBits) : BitVec Format.binary64.numBits :=
  if isNaNBits bits then bits
  else packComponents Format.binary64 (-Sign.ofBitVec (unpackSign bits)) (unpackExponent bits) (unpackMantissa bits)

theorem flipped_packComponents (s : Sign) {x : BitVec 11} {b : BitVec 52} (h : x = -1#11 → b = 0#52) :
    flipped (packComponents Format.binary64 s x b) = packComponents Format.binary64 (-s) x b := by
  have hexponent : unpackExponent (packComponents Format.binary64 s x b) = x := unpackExponent_packComponents
  have hmantissa : unpackMantissa (packComponents Format.binary64 s x b) = b := unpackMantissa_packComponents
  have hnumber : isNaNBits (packComponents Format.binary64 s x b) = false := by
    rw [isNaNBits, hexponent, hmantissa]
    exact decide_eq_false fun hnan => hnan.2 (h hnan.1)
  rw [flipped, hnumber, if_neg Bool.false_ne_true, hexponent, hmantissa, UnpackedFloat.unpackSign_packComponents,
    Sign.ofBitVec_toBitVec]

theorem pack_neg (u : UnpackedFloat) :
    UnpackedFloat.pack Format.binary64 u.neg = flipped (UnpackedFloat.pack Format.binary64 u) := by
  cases u with
  | notANumber => decide
  | infinity s => exact (flipped_packComponents s fun _ => rfl).symm
  | zero s => exact (flipped_packComponents s fun _ => rfl).symm
  | finite s m e hm =>
    rw [UnpackedFloat.neg, pack_finite_eq, pack_finite_eq]
    generalize (e + ((Format.binary64.exponentBias : ℕ) : ℤ) + (52 : ℕ)).toNat = n
    split
    · exact (flipped_packComponents s fun _ => rfl).symm
    · rename_i hfits
      split
      · refine (flipped_packComponents s fun hone => ?_).symm
        have hnat := congrArg BitVec.toNat hone
        rw [BitVec.toNat_ofNat] at hnat
        change n % 2048 = 2047 at hnat
        omega
      · exact (flipped_packComponents s fun hone => absurd hone (by decide)).symm

theorem pack_neg_unpack {bits : BitVec Format.binary64.numBits} (h : Format.binary64.Valid bits) :
    UnpackedFloat.pack Format.binary64 (UnpackedFloat.unpack Format.binary64 bits).neg = flipped bits := by
  rw [pack_neg, pack_unpack_of_valid h]

theorem neg_pack (u : UnpackedFloat) : -(⟨Float.Model.pack u⟩ : Float) = ⟨Float.Model.pack u.neg⟩ := by
  have hbits := (pack_neg_unpack (Float.Model.pack u).valid).trans (pack_neg u).symm
  exact Float.toBits_inj.mp (congrArg UInt64.ofBitVec hbits)

/-- A difference taken the other way round is minus the difference; where there is none, both are zero. -/
theorem sub_eq_neg_sub (x y : Float) : y - x = -(x - y) ∨ x - y = 0 ∧ y - x = 0 := by
  have hsub : ∀ x y : Float, x - y =
      ⟨Float.Model.pack (UnpackedFloat.sub Format.binary64 x.toModel.unpack y.toModel.unpack)⟩ := fun _ _ => rfl
  have hzero : (⟨Float.Model.pack (.zero .positive)⟩ : Float) = 0 := by decide
  rw [hsub x y, hsub y x, neg_pack, ← hzero]
  rcases sub_swap Format.binary64 x.toModel.unpack y.toModel.unpack with hswap | ⟨hxy, hyx⟩
  · exact .inl (by rw [hswap])
  · exact .inr ⟨by rw [hxy], by rw [hyx]⟩

end PortfolioReports.Numeric
