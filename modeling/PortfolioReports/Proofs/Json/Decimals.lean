import PortfolioReports.Json.Printer
import PortfolioReports.Proofs.Json.Numbers

namespace PortfolioReports.Json

open Numeric

def ofDigits (ds : List ℕ) (start : ℕ) : ℕ := ds.foldl (fun n d => n * 10 + d) start

theorem ofDigits_append (ds ds' : List ℕ) (start : ℕ) :
    ofDigits (ds ++ ds') start = ofDigits ds' (ofDigits ds start) :=
  List.foldl_append

theorem ofDigits_eq (ds : List ℕ) (start : ℕ) : ofDigits ds start = start * 10 ^ ds.length + ofDigits ds 0 := by
  induction ds generalizing start with
  | nil => simp [ofDigits]
  | cons d ds ih =>
    have hcons : ∀ n, ofDigits (d :: ds) n = ofDigits ds (n * 10 + d) := fun n => rfl
    rw [hcons, hcons, ih (start * 10 + d), ih (0 * 10 + d), List.length_cons, pow_succ]
    ring

theorem le_ofDigits (ds : List ℕ) (start : ℕ) : start ≤ ofDigits ds start := by
  rw [ofDigits_eq]
  exact (Nat.le_mul_of_pos_right _ (by positivity)).trans (Nat.le_add_right _ _)

theorem ofDigits_lt {ds : List ℕ} (h : ∀ d ∈ ds, d < 10) : ofDigits ds 0 < 10 ^ ds.length := by
  induction ds with
  | nil => simp [ofDigits]
  | cons d ds ih =>
    rw [List.forall_mem_cons] at h
    have hcons : ofDigits (d :: ds) 0 = ofDigits ds (0 * 10 + d) := rfl
    rw [hcons, ofDigits_eq, List.length_cons, pow_succ]
    have := ih h.2
    nlinarith

theorem fillSignificand_eq {ds : List ℕ} {sig : ℕ} (h : ofDigits ds sig < UInt64.size) :
    fillSignificand sig ds = (ofDigits ds sig, []) := by
  induction ds generalizing sig with
  | nil => rfl
  | cons d ds ih =>
    have hle := le_ofDigits ds (sig * 10 + d)
    have hcons : ofDigits (d :: ds) sig = ofDigits ds (sig * 10 + d) := rfl
    rw [hcons] at h ⊢
    rw [fillSignificand, if_pos (by omega), ih h]

theorem fillSignificand_spec (ds : List ℕ) {sig : ℕ} (h : sig < UInt64.size) :
    ∃ taken left, ds = taken ++ left ∧ fillSignificand sig ds = (ofDigits taken sig, left) ∧
      ofDigits taken sig < UInt64.size := by
  induction ds generalizing sig with
  | nil => exact ⟨[], [], rfl, rfl, h⟩
  | cons d ds ih =>
    rw [fillSignificand]
    split
    · rename_i hroom
      obtain ⟨taken, left, rfl, hfill, hlt⟩ := ih hroom
      exact ⟨d :: taken, left, rfl, hfill, hlt⟩
    · exact ⟨[], d :: ds, rfl, rfl, h⟩

theorem scaled_isFloat (signed : Float → Json) {whole : ℕ} (hwhole : whole < UInt64.size) (frac : List ℕ)
    {exp : ℤ} (hexp : exp < UInt32.size / 2) (hbound : (ofDigits frac whole : ℚ) * 10 ^ (exp - frac.length) ≤ safe) :
    ∃ y, numberOf.scaled signed (whole, []) frac exp = signed y := by
  obtain ⟨taken, left, rfl, hfill, hlt⟩ := fillSignificand_spec frac hwhole
  have hlength : (taken ++ left).length - left.length = taken.length := by simp
  simp only [numberOf.scaled, hfill, hlength, List.length_nil]
  split
  · have hle : (ofDigits taken whole : ℚ) * 10 ^ ((0 : ℕ) - (taken.length : ℤ) + exp) ≤ safe := by
      -- What is left out of the digits makes the number smaller.
      refine le_trans ?_ hbound
      have hdigits : ofDigits taken whole * 10 ^ left.length ≤ ofDigits (taken ++ left) whole := by
        rw [ofDigits_append, ofDigits_eq left]
        exact Nat.le_add_right _ _
      have hsplit : (0 : ℕ) - (taken.length : ℤ) + exp = left.length + (exp - (taken ++ left).length) := by
        rw [List.length_append]
        omega
      rw [hsplit, zpow_add₀ (by norm_num), ← mul_assoc, zpow_natCast]
      gcongr
      exact_mod_cast hdigits
    obtain ⟨y, hy⟩ := floatOfParts_isSome hlt hle
    exact ⟨y, by rw [hy]⟩
  · split
    · exact ⟨0, rfl⟩
    · omega

namespace NumberText

variable {t : NumberText}

def fractionDigits (t : NumberText) : List Char := t.fraction?.getD []

def value (t : NumberText) : ℚ :=
  ofDigits ((t.whole ++ t.fractionDigits).map digitOf) 0 *
    10 ^ (t.exponentValue?.getD 0 - (t.fractionDigits.length : ℤ))

def read (isNegative : Bool) (t : NumberText) : Json :=
  numberOf isNegative (t.whole.map digitOf) (t.fraction?.map (·.map digitOf)) t.exponentValue?

theorem digitOf_lt {c : Char} (h : c.isDigit = true) : digitOf c < 10 := by
  simp [Char.isDigit, UInt32.le_iff_toNat_le] at h
  simp [digitOf]
  omega

theorem read_eq_scaled (hpoint : t.fraction? ≠ none ∨ t.exponent? ≠ none) (isNegative : Bool) :
    t.read isNegative = numberOf.scaled (fun f => float (if isNegative then -f else f))
      (fillSignificand 0 (t.whole.map digitOf)) (t.fractionDigits.map digitOf) (t.exponentValue?.getD 0) := by
  obtain ⟨whole, fraction?, exponent?⟩ := t
  cases fraction? with
  | some f => rfl
  | none => cases exponent? with
    | some x => rfl
    | none => simp at hpoint

theorem read_of_fits (hpoint : t.fraction? ≠ none ∨ t.exponent? ≠ none)
    (hfits : ofDigits ((t.whole ++ t.fractionDigits).map digitOf) 0 < UInt64.size)
    (hexp : (t.exponentValue?.getD 0).natAbs < UInt32.size / 2) (isNegative : Bool) :
    t.read isNegative = match floatOfParts (ofDigits ((t.whole ++ t.fractionDigits).map digitOf) 0)
        (t.exponentValue?.getD 0 - (t.fractionDigits.length : ℤ)) with
      | some f => float (if isNegative then -f else f)
      | none => unreadable := by
  rw [read_eq_scaled hpoint]
  rw [List.map_append, ofDigits_append] at hfits ⊢
  have hwhole := (le_ofDigits (t.fractionDigits.map digitOf) _).trans_lt hfits
  have he : ((0 : ℕ) : ℤ) - ((t.fractionDigits.length - 0 : ℕ) : ℤ) + t.exponentValue?.getD 0 =
      t.exponentValue?.getD 0 - t.fractionDigits.length := by omega
  rw [fillSignificand_eq hwhole, numberOf.scaled]
  simp only [fillSignificand_eq hfits, List.length_nil, List.length_map, he]
  exact if_pos hexp

theorem read_isFloat (h : t.IsWellFormed) (hpoint : t.fraction? ≠ none ∨ t.exponent? ≠ none)
    (hshort : t.whole.length ≤ 19) (hexp : t.exponentValue?.getD 0 < UInt32.size / 2) (hbound : t.value ≤ safe)
    (isNegative : Bool) : ∃ y, t.read isNegative = float y := by
  have hwhole : ofDigits (t.whole.map digitOf) 0 < UInt64.size := by
    have hlt : ofDigits (t.whole.map digitOf) 0 < 10 ^ (t.whole.map digitOf).length :=
      ofDigits_lt (List.forall_mem_map.mpr fun c hc => digitOf_lt (h.whole c hc))
    rw [List.length_map] at hlt
    have hpow : 10 ^ t.whole.length ≤ 10 ^ 19 := Nat.pow_le_pow_right (by omega) hshort
    have hsize : 10 ^ 19 < UInt64.size := by decide
    omega
  rw [read_eq_scaled hpoint, fillSignificand_eq hwhole]
  have hdigits : (ofDigits (t.fractionDigits.map digitOf) (ofDigits (t.whole.map digitOf) 0) : ℚ) *
      10 ^ (t.exponentValue?.getD 0 - ((t.fractionDigits.map digitOf).length : ℤ)) ≤ safe := by
    rw [← ofDigits_append, ← List.map_append, List.length_map]
    exact hbound
  obtain ⟨y, hy⟩ := scaled_isFloat _ hwhole _ hexp hdigits
  exact ⟨_, hy⟩

end NumberText

def placed (ds : List Char) (k : ℤ) : NumberText :=
  if k ≤ 0 then ⟨['0'], some (List.replicate (-k).toNat '0' ++ ds), none⟩
  else if ds.length ≤ k.toNat then ⟨ds ++ List.replicate (k.toNat - ds.length) '0', some ['0'], none⟩
  else ⟨ds.take k.toNat, some (ds.drop k.toNat), none⟩

def scientific (ds : List Char) (e : ℤ) : NumberText :=
  ⟨ds.take 1, if ds.drop 1 = [] then none else some (ds.drop 1), some (decide (e < 0), Nat.toDigits 10 e.natAbs)⟩

def pointOf (d : Decimal) : ℤ := (Nat.toDigits 10 d.digits).length + d.exponent

def textOf (d : Decimal) : NumberText :=
  let ds := Nat.toDigits 10 d.digits
  if d.digits = 0 then ⟨['0'], some ['0'], none⟩
  else if -5 ≤ pointOf d - 1 ∧ pointOf d - 1 < 16 then placed ds (pointOf d) else scientific ds (pointOf d - 1)

theorem toList_placePoint (s : String) (k : ℤ) :
    (numberLayout.placePoint s k).toList = (placed s.toList k).chars := by
  unfold NumberLayout.placePoint placed zeros
  rw [String.length_toList]
  split
  · simp [NumberText.chars, NumberText.fractionChars, NumberText.exponentChars]
  · split
    · simp [NumberText.chars, NumberText.fractionChars, NumberText.exponentChars, numberLayout]
    · simp [NumberText.chars, NumberText.fractionChars, NumberText.exponentChars]

theorem toList_withExponent (s : String) (e : ℤ) :
    (NumberLayout.withExponent s e).toList = (scientific s.toList e).chars := by
  have hmark : (if e < 0 then "e-" else "e+").toList = ['e', if e < 0 then '-' else '+'] := by
    split <;> rfl
  have hrest : (if (String.ofList (s.toList.drop 1)).isEmpty then ""
      else "." ++ String.ofList (s.toList.drop 1)).toList = (scientific s.toList e).fractionChars := by
    unfold scientific NumberText.fractionChars
    cases s.toList.drop 1 with
    | nil => simp
    | cons c cs => simp
  simp only [NumberLayout.withExponent, String.toList_append, hmark, hrest, toList_toString_nat, String.toList_ofList,
    NumberText.chars, NumberText.exponentChars, scientific, List.append_assoc, decide_eq_true_eq]
  rfl

theorem toList_renderDecimal (d : Decimal) : (numberLayout.renderDecimal d).toList = (textOf d).chars := by
  have hlength : (toString d.digits).length = (Nat.toDigits 10 d.digits).length := by
    rw [← String.length_toList, toList_toString_nat]
  unfold NumberLayout.renderDecimal textOf pointOf
  simp only [hlength]
  split
  · rfl
  · simp only [numberLayout, Bool.and_eq_true, decide_eq_true_eq]
    split
    · rw [← toList_toString_nat]
      exact toList_placePoint _ _
    · rw [← toList_toString_nat]
      exact toList_withExponent _ _

section

variable {ds : List Char}

theorem allDigits_zeros (n : ℕ) : AllDigits (List.replicate n '0') := by
  intro c hc
  rw [List.eq_of_mem_replicate hc]
  rfl

theorem AllDigits.append {cs cs' : List Char} (h : AllDigits cs) (h' : AllDigits cs') : AllDigits (cs ++ cs') := by
  intro c hc
  exact (List.mem_append.mp hc).elim (h c) (h' c)

theorem placed_isWellFormed (hds : AllDigits ds) (hlead : ∃ c cs, ds = c :: cs ∧ c ≠ '0') (k : ℤ) :
    (placed ds k).IsWellFormed := by
  obtain ⟨c, cs, rfl, hc⟩ := hlead
  unfold placed
  split
  · refine ⟨allDigits_zeros 1, .inl rfl, ?_, nofun⟩
    rintro f ⟨rfl⟩
    exact ⟨by simp, (allDigits_zeros _).append hds⟩
  · split
    · refine ⟨hds.append (allDigits_zeros _), .inr ⟨c, _, rfl, hc⟩, ?_, nofun⟩
      rintro f ⟨rfl⟩
      exact ⟨by simp, allDigits_zeros 1⟩
    · rename_i hpos hlength
      obtain ⟨n, hn⟩ : ∃ n, k.toNat = n + 1 := ⟨k.toNat - 1, by omega⟩
      refine ⟨fun c hc => hds c (List.mem_of_mem_take hc), .inr ⟨c, cs.take n, by simp [hn], hc⟩, ?_, nofun⟩
      rintro f ⟨rfl⟩
      refine ⟨?_, fun c hc => hds c (List.mem_of_mem_drop hc)⟩
      rw [← List.length_pos_iff, List.length_drop]
      omega

theorem scientific_isWellFormed (hds : AllDigits ds) (hlead : ∃ c cs, ds = c :: cs ∧ c ≠ '0') (e : ℤ) :
    (scientific ds e).IsWellFormed := by
  obtain ⟨c, cs, rfl, hc⟩ := hlead
  refine ⟨fun c hc => hds c (List.mem_of_mem_take hc), .inr ⟨c, [], rfl, hc⟩, ?_, ?_⟩
  · intro f hf
    simp only [scientific] at hf
    split at hf
    · cases hf
    · rename_i hne
      cases hf
      exact ⟨hne, fun c hc => hds c (List.mem_of_mem_drop hc)⟩
  · rintro x ⟨rfl⟩
    exact ⟨Nat.toDigits_ne_nil, allDigits_toDigits _⟩

theorem ofDigits_zeros (n start : ℕ) : ofDigits ((List.replicate n '0').map digitOf) start = start * 10 ^ n := by
  have hzero : ofDigits ((List.replicate n '0').map digitOf) 0 = 0 := by
    induction n with
    | zero => rfl
    | succ n ih => exact ih
  rw [ofDigits_eq, hzero]
  simp

theorem placed_value (ds : List Char) (k : ℤ) :
    (placed ds k).value = ofDigits (ds.map digitOf) 0 * 10 ^ (k - ds.length) := by
  unfold placed NumberText.value NumberText.fractionDigits NumberText.exponentValue?
  split
  · have hdigits : ofDigits ((['0'] ++ (List.replicate (-k).toNat '0' ++ ds)).map digitOf) 0 =
        ofDigits (ds.map digitOf) 0 := by
      have hzero : ofDigits (['0'].map digitOf) 0 = 0 := rfl
      rw [List.map_append, List.map_append, ofDigits_append, ofDigits_append, hzero, ofDigits_zeros, Nat.zero_mul]
    have hlength : (0 : ℤ) - (List.replicate (-k).toNat '0' ++ ds).length = k - ds.length := by
      rw [List.length_append, List.length_replicate]
      omega
    simp only [Option.getD_some, Option.map_none, Option.getD_none, hdigits, hlength]
  · split
    · rename_i hpos hlength
      have hdigits : ofDigits ((ds ++ List.replicate (k.toNat - ds.length) '0' ++ ['0']).map digitOf) 0 =
          ofDigits (ds.map digitOf) 0 * 10 ^ (k.toNat - ds.length) * 10 := by
        have hzero : ∀ n, ofDigits (['0'].map digitOf) n = n * 10 := fun n => by simp [ofDigits, digitOf]
        rw [List.map_append, List.map_append, ofDigits_append, ofDigits_append, hzero, ofDigits_zeros]
      have hk : k - ds.length = (k.toNat - ds.length : ℕ) := by omega
      simp only [Option.getD_some, Option.map_none, Option.getD_none, hdigits, hk, zpow_natCast]
      have hpoint : (10 : ℚ) ^ ((0 : ℤ) - ((['0'] : List Char).length : ℤ)) = 1 / 10 := by norm_num
      rw [hpoint]
      push_cast
      ring
    · rename_i hpos hlength
      have hk : (0 : ℤ) - (ds.drop k.toNat).length = k - ds.length := by
        rw [List.length_drop]
        omega
      simp only [Option.getD_some, Option.map_none, Option.getD_none, List.take_append_drop, hk]

theorem scientific_exponentValue? (ds : List Char) (e : ℤ) : (scientific ds e).exponentValue?.getD 0 = e := by
  have hdigits : ((Nat.toDigits 10 e.natAbs).map digitOf).foldl (fun n d => n * 10 + d) 0 = e.natAbs :=
    foldl_digits _
  simp only [NumberText.exponentValue?, scientific, Option.map_some, Option.getD_some, hdigits, decide_eq_true_eq]
  split <;> omega

theorem scientific_value (h : ds ≠ []) (e : ℤ) :
    (scientific ds e).value = ofDigits (ds.map digitOf) 0 * 10 ^ (e + 1 - ds.length) := by
  have hfraction : (scientific ds e).fractionDigits = ds.drop 1 := by
    unfold NumberText.fractionDigits scientific
    split
    · rename_i hnil
      exact hnil.symm
    · rfl
  have hlength : 0 < ds.length := List.length_pos_iff.mpr h
  have hk : e - ((ds.drop 1).length : ℤ) = e + 1 - ds.length := by
    rw [List.length_drop]
    omega
  have hwhole : (scientific ds e).whole = ds.take 1 := rfl
  rw [NumberText.value, hfraction, scientific_exponentValue?, hwhole, List.take_append_drop, hk]

theorem placed_exponent? (ds : List Char) (k : ℤ) : (placed ds k).exponent? = none := by
  unfold placed
  repeat' split
  all_goals rfl

theorem placed_whole_length (ds : List Char) (k : ℤ) : (placed ds k).whole.length ≤ max 1 k.toNat := by
  unfold placed
  repeat' split
  · simp
  · simp only [List.length_append, List.length_replicate]
    omega
  · simp

end

section

variable {d : Decimal}

theorem textOf_cases (d : Decimal) :
    (d.digits = 0 ∧ textOf d = ⟨['0'], some ['0'], none⟩) ∨ (0 < d.digits ∧
      (pointOf d ≤ 16 ∧ textOf d = placed (Nat.toDigits 10 d.digits) (pointOf d) ∨
        textOf d = scientific (Nat.toDigits 10 d.digits) (pointOf d - 1))) := by
  simp only [textOf]
  split
  · rename_i hzero
    exact .inl ⟨hzero, rfl⟩
  · rename_i hdigits
    refine .inr ⟨Nat.pos_of_ne_zero hdigits, ?_⟩
    split
    · exact .inl ⟨by omega, rfl⟩
    · exact .inr rfl

theorem textOf_isWellFormed (d : Decimal) : (textOf d).IsWellFormed := by
  rcases textOf_cases d with ⟨-, htext⟩ | ⟨hpos, ⟨-, htext⟩ | htext⟩ <;> rw [htext]
  · refine ⟨allDigits_zeros 1, .inl rfl, ?_, nofun⟩
    rintro f ⟨rfl⟩
    exact ⟨by simp, allDigits_zeros 1⟩
  · exact placed_isWellFormed (allDigits_toDigits _) (toDigits_lead hpos) _
  · exact scientific_isWellFormed (allDigits_toDigits _) (toDigits_lead hpos) _

theorem textOf_value (d : Decimal) : (textOf d).value = d.value := by
  have hdigits : ofDigits ((Nat.toDigits 10 d.digits).map digitOf) 0 = d.digits := foldl_digits _
  rcases textOf_cases d with ⟨hzero, htext⟩ | ⟨-, ⟨-, htext⟩ | htext⟩ <;> rw [htext]
  · simp [NumberText.value, NumberText.fractionDigits, ofDigits, digitOf, Decimal.value, hzero]
  · rw [placed_value, hdigits, pointOf, add_sub_cancel_left, Decimal.value]
  · rw [scientific_value Nat.toDigits_ne_nil, hdigits, sub_add_cancel, pointOf, add_sub_cancel_left, Decimal.value]

theorem textOf_pointed (d : Decimal) : (textOf d).fraction? ≠ none ∨ (textOf d).exponent? ≠ none := by
  rcases textOf_cases d with ⟨-, htext⟩ | ⟨-, ⟨-, htext⟩ | htext⟩ <;> rw [htext]
  · exact .inl (Option.some_ne_none _)
  · unfold placed
    repeat' split
    all_goals exact .inl (Option.some_ne_none _)
  · exact .inr (Option.some_ne_none _)

theorem textOf_short (d : Decimal) : (textOf d).whole.length ≤ 19 := by
  rcases textOf_cases d with ⟨-, htext⟩ | ⟨-, ⟨hpoint, htext⟩ | htext⟩ <;> rw [htext]
  · simp
  · have := placed_whole_length (Nat.toDigits 10 d.digits) (pointOf d)
    omega
  · simp only [scientific, List.length_take]
    omega

theorem pow_pointOf_le (h : 0 < d.digits) : (10 : ℚ) ^ (pointOf d - 1) ≤ d.value := by
  have hlength := Nat.length_toDigits_pos (b := 10) (n := d.digits)
  have hlow : 10 ^ ((Nat.toDigits 10 d.digits).length - 1) ≤ d.digits := by
    cases hlen : (Nat.toDigits 10 d.digits).length - 1 with
    | zero => exact h
    | succ n =>
      have hmany : ¬(Nat.toDigits 10 d.digits).length ≤ n + 1 := by omega
      rwa [Nat.length_toDigits_le_iff (by decide) (by omega), Nat.not_lt] at hmany
  have hsplit : pointOf d - 1 = ((Nat.toDigits 10 d.digits).length - 1 : ℕ) + d.exponent := by
    unfold pointOf
    omega
  rw [hsplit, zpow_add₀ (by norm_num), zpow_natCast, Decimal.value]
  gcongr
  exact_mod_cast hlow

theorem textOf_exponent (h : d.value ≤ safe) : (textOf d).exponentValue?.getD 0 < UInt32.size / 2 := by
  rcases textOf_cases d with ⟨-, htext⟩ | ⟨hpos, ⟨-, htext⟩ | htext⟩ <;> rw [htext]
  · decide
  · rw [NumberText.exponentValue?, placed_exponent?]
    decide
  · rw [scientific_exponentValue?]
    have hsafe : safe < 10 ^ (309 : ℤ) := safe_lt
    have hexp := (zpow_lt_zpow_iff_right₀ (by norm_num)).mp (lt_of_le_of_lt ((pow_pointOf_le hpos).trans h) hsafe)
    have hsize : (UInt32.size : ℤ) = 2 ^ 32 := rfl
    omega

theorem read_textOf (h : d.value ≤ safe) (isNegative : Bool) : ∃ y, (textOf d).read isNegative = float y :=
  NumberText.read_isFloat (textOf_isWellFormed d) (textOf_pointed d) (textOf_short d) (textOf_exponent h)
    (by rwa [textOf_value]) isNegative

end

theorem decode_binary64 (n : ℕ) : binary64.decode n =
    if n / 2 ^ 52 % 2 ^ 11 = 2047 then
      if n % 2 ^ 52 = 0 then .infinite (n / 2 ^ 63 % 2 == 1) else .undefined
    else if n / 2 ^ 52 % 2 ^ 11 = 0 then .finite (n / 2 ^ 63 % 2 == 1) ⟨n % 2 ^ 52, -1074, false⟩
    else .finite (n / 2 ^ 63 % 2 == 1) ⟨2 ^ 52 + n % 2 ^ 52, -1074 + (n / 2 ^ 52 % 2 ^ 11 - 1 : ℕ),
      n % 2 ^ 52 == 0 && decide (1 < n / 2 ^ 52 % 2 ^ 11)⟩ := by
  rfl

theorem exponent_of_isFinite {x : Float} (h : x.isFinite = true) : x.toBits.toNat / 2 ^ 52 % 2 ^ 11 ≠ 2047 := by
  intro hexp
  have hfield : @Float.Model.UnpackedFloat.unpackExponent .binary64 x.toModel.toBits.toBitVec = -1#11 := by
    apply BitVec.eq_of_toNat_eq
    change (x.toBits.toNat >>> 52) % 2 ^ 11 = 2047
    rw [Nat.shiftRight_eq_div_pow]
    exact hexp
  have hunpack : x.toModel.unpack.isFinite = false := by
    unfold Float.Model.unpack Float.Model.UnpackedFloat.unpack
    rw [hfield, if_pos rfl]
    split <;> rfl
  rw [Float.isFinite, Float.Model.isFinite, hunpack] at h
  cases h

theorem decode_of_isFinite {x : Float} (h : x.isFinite = true) :
    ∃ isNegative b, binary64.decode x.toBits.toNat = .finite isNegative b ∧ b.significand < 2 ^ 53 ∧
      b.exponent ≤ 971 ∧ (b.narrowBelow = true → b.significand = 2 ^ 52) := by
  have hexp := exponent_of_isFinite h
  have hfield : x.toBits.toNat / 2 ^ 52 % 2 ^ 11 < 2 ^ 11 := Nat.mod_lt _ (by decide)
  have hfraction : x.toBits.toNat % 2 ^ 52 < 2 ^ 52 := Nat.mod_lt _ (by decide)
  rw [decode_binary64, if_neg hexp]
  split
  · exact ⟨_, _, rfl, by simp only; omega, by simp only; omega, nofun⟩
  · refine ⟨_, _, rfl, by simp only; omega, by simp only; omega, fun hnarrow => ?_⟩
    simp only [Bool.and_eq_true, beq_iff_eq] at hnarrow ⊢
    omega

theorem upper_le_safe {b : Binary} (hsig : b.significand < 2 ^ 53) (hexp : b.exponent ≤ 971)
    (htop : b.exponent = 971 → b.significand < 2 ^ 53 - 2) : b.upper ≤ safe := by
  have hsafe : safe = ((2 ^ 55 - 10 : ℕ) : ℚ) * 2 ^ (971 - 2 : ℤ) := by
    have hpower : (2 : ℚ) ^ 1024 = 2 ^ 55 * 2 ^ 969 := by rw [← pow_add]
    rw [safe, hpower, pow_succ (2 : ℚ) 969, ← mul_assoc, mul_right_comm, ← sub_mul,
      show (971 - 2 : ℤ) = (969 : ℕ) from rfl, zpow_natCast]
    norm_num
  rw [hsafe, Binary.upper]
  by_cases heq : b.exponent = 971
  · have hle : 4 * b.significand + 2 ≤ 2 ^ 55 - 10 := by
      have := htop heq
      omega
    rw [heq]
    gcongr
  · have hle : 4 * b.significand + 2 ≤ (2 ^ 55 - 10) * 2 := by omega
    have hdouble : (2 : ℚ) ^ (971 - 2 : ℤ) = 2 * 2 ^ (970 - 2 : ℤ) := by
      rw [← zpow_one_add₀ two_ne_zero]
      rfl
    have hpow : (2 : ℚ) ^ (b.exponent - 2) ≤ 2 ^ (970 - 2 : ℤ) := zpow_le_zpow_right₀ (by norm_num) (by omega)
    rw [hdouble, ← mul_assoc]
    have hle' : ((4 * b.significand + 2 : ℕ) : ℚ) ≤ (2 ^ 55 - 10 : ℕ) * 2 := by exact_mod_cast hle
    gcongr

/-- The two greatest floats are read back as floats too, though their decimals lie nearer to the bound. -/
theorem read_topmost {d : Decimal} (h : d = ⟨17976931348623157, 292⟩ ∨ d = ⟨17976931348623155, 292⟩)
    (isNegative : Bool) : ∃ y, (textOf d).read isNegative = float y := by
  have hdigits : ofDigits (((textOf d).whole ++ (textOf d).fractionDigits).map digitOf) 0 = d.digits := by
    rcases h with rfl | rfl <;> decide +kernel
  have hexp : (textOf d).exponentValue?.getD 0 = 308 ∧
      (textOf d).exponentValue?.getD 0 - ((textOf d).fractionDigits.length : ℤ) = d.exponent := by
    rcases h with rfl | rfl <;> decide +kernel
  have hsome : d.digits < UInt64.size ∧ (floatOfParts d.digits d.exponent).isSome = true := by
    rcases h with rfl | rfl <;> decide +kernel
  obtain ⟨y, hy⟩ := Option.isSome_iff_exists.mp hsome.2
  have hread := NumberText.read_of_fits (textOf_pointed d) (by rw [hdigits]; exact hsome.1)
    (by rw [hexp.1]; decide) isNegative
  rw [hread, hdigits, hexp.2, hy]
  exact ⟨_, rfl⟩

theorem read_shortest {b : Binary} (hsig : b.significand < 2 ^ 53) (hexp : b.exponent ≤ 971)
    (hnarrow : b.narrowBelow = true → b.significand = 2 ^ 52) (isNegative : Bool) :
    ∃ y, (textOf (b.shortest .toEven)).read isNegative = float y := by
  by_cases htop : b.exponent = 971 → b.significand < 2 ^ 53 - 2
  · exact read_textOf ((b.shortest_le_upper .toEven).trans (upper_le_safe hsig hexp htop)) isNegative
  · obtain ⟨significand, exponent, narrowBelow⟩ := b
    obtain ⟨rfl, hlarge⟩ : exponent = 971 ∧ 2 ^ 53 - 2 ≤ significand := by simpa using htop
    obtain rfl : narrowBelow = false := by
      cases narrowBelow with
      | false => rfl
      | true =>
        have := hnarrow rfl
        simp only at this hsig
        omega
    apply read_topmost
    simp only at hsig
    obtain rfl | rfl : significand = 2 ^ 53 - 1 ∨ significand = 2 ^ 53 - 2 := by omega
    · exact .inl (by decide +kernel)
    · exact .inr (by decide +kernel)

def floatText (x : Float) : Bool × NumberText :=
  match binary64.decode x.toBits.toNat with
  | .finite isNegative b => (isNegative, textOf (b.shortest .toEven))
  | _ => (false, textOf ⟨0, 0⟩)

theorem toList_render {x : Float} (h : x.isFinite = true) :
    (numberLayout.render x).toList = (if (floatText x).1 then ['-'] else []) ++ (floatText x).2.chars := by
  obtain ⟨isNegative, b, hdecode, -⟩ := decode_of_isFinite h
  simp only [NumberLayout.render, floatText, hdecode, NumberLayout.renderValue, String.toList_append]
  congr 1
  · cases isNegative <;> rfl
  · exact toList_renderDecimal _

theorem floatText_isWellFormed (x : Float) : (floatText x).2.IsWellFormed := by
  unfold floatText
  split
  · exact textOf_isWellFormed _
  · exact textOf_isWellFormed ⟨0, 0⟩

theorem read_floatText {x : Float} (h : x.isFinite = true) :
    ∃ y, (floatText x).2.read (floatText x).1 = float y := by
  obtain ⟨isNegative, b, hdecode, hsig, hexp, hnarrow⟩ := decode_of_isFinite h
  simp only [floatText, hdecode]
  exact read_shortest hsig hexp hnarrow isNegative

/-- What a finite float is read back as: a float, in the last places perhaps another one. -/
def rereadFloat (x : Float) : Float :=
  match (floatText x).2.read (floatText x).1 with
  | .float y => y
  | _ => x

theorem read_eq_rereadFloat {x : Float} (h : x.isFinite = true) :
    (floatText x).2.read (floatText x).1 = float (rereadFloat x) := by
  obtain ⟨y, hy⟩ := read_floatText h
  rw [hy, rereadFloat, hy]

end PortfolioReports.Json
