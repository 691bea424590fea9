import PortfolioReports.Proofs.Calendar.Stamp

/-!
Of two moments the earlier one has the smaller text, unless its text is that of the later one with fewer digits: then
a `Z` stands against a digit or a point, and is the greater one.
-/

namespace PortfolioReports

namespace Text

variable {as bs cs ds : List Char} {w k n m : Nat}

theorem lt_append_of_lt (hlength : as.length = bs.length) (h : as < bs) : as ++ cs < bs ++ ds := by
  induction as generalizing bs with
  | nil =>
    rw [List.length_eq_zero_iff.mp hlength.symm] at h
    exact absurd h (List.lt_irrefl [])
  | cons a as ih =>
    cases bs with
    | nil => exact absurd hlength (by simp)
    | cons b bs =>
      rw [List.cons_append, List.cons_append, List.cons_lt_cons_iff]
      rcases List.cons_lt_cons_iff.mp h with hlt | ⟨heq, hrest⟩
      · exact .inl hlt
      · exact .inr ⟨heq, ih (by simpa using hlength) hrest⟩

theorem ofDigitChars_lt_iff (hlength : as.length = bs.length) (has : ∀ c ∈ as, c.isDigit = true)
    (hbs : ∀ c ∈ bs, c.isDigit = true) (x y : Nat) :
    Nat.ofDigitChars 10 as x < Nat.ofDigitChars 10 bs y ↔ x < y ∨ x = y ∧ as < bs := by
  induction as generalizing bs x y with
  | nil =>
    rw [List.length_eq_zero_iff.mp hlength.symm]
    simp
  | cons a as ih =>
    cases bs with
    | nil => exact absurd hlength (by simp)
    | cons b bs =>
      have ha := Char.isDigit_iff_toNat.mp (has a (by simp))
      have hb := Char.isDigit_iff_toNat.mp (hbs b (by simp))
      have hlt : a < b ↔ a.toNat < b.toNat := Iff.rfl
      rw [Nat.ofDigitChars_cons, Nat.ofDigitChars_cons, ih (by simpa using hlength) (fun c hc => has c (by simp [hc]))
        (fun c hc => hbs c (by simp [hc])), List.cons_lt_cons_iff, hlt, ← Char.toNat_inj]
      have hzero : '0'.toNat = 48 := rfl
      have hnine : '9'.toNat = 57 := rfl
      constructor
      · rintro (h | ⟨h, hrest⟩)
        · omega
        · exact .inr ⟨by omega, .inr ⟨by omega, hrest⟩⟩
      · rintro (h | ⟨rfl, h | ⟨h, hrest⟩⟩)
        · omega
        · omega
        · exact .inr ⟨by omega, hrest⟩

theorem eq_of_ofDigitChars_eq (hlength : as.length = bs.length) (has : ∀ c ∈ as, c.isDigit = true)
    (hbs : ∀ c ∈ bs, c.isDigit = true) (h : Nat.ofDigitChars 10 as 0 = Nat.ofDigitChars 10 bs 0) : as = bs := by
  have hle : ¬ bs < as := fun hlt =>
    Nat.ne_of_gt ((ofDigitChars_lt_iff hlength.symm hbs has 0 0).mpr (.inr ⟨rfl, hlt⟩)) h
  have hge : ¬ as < bs := fun hlt =>
    Nat.ne_of_lt ((ofDigitChars_lt_iff hlength has hbs 0 0).mpr (.inr ⟨rfl, hlt⟩)) h
  exact List.le_antisymm hle hge

theorem zeroPadded_append_lt (hw : 0 < w) (hm : m < 10 ^ w) (h : n < m ∨ n = m ∧ cs < ds) :
    (zeroPadded w n).toList ++ cs < (zeroPadded w m).toList ++ ds := by
  rcases h with h | ⟨rfl, h⟩
  · have hlength : (zeroPadded w n).toList.length = (zeroPadded w m).toList.length := by
      rw [length_zeroPadded hw (Nat.lt_trans h hm), length_zeroPadded hw hm]
    have hvalues := (ofDigitChars_lt_iff hlength (fun _ => isDigit_of_mem_zeroPadded)
      (fun _ => isDigit_of_mem_zeroPadded) 0 0).mp (by rwa [ofDigitChars_zeroPadded, ofDigitChars_zeroPadded])
    exact lt_append_of_lt hlength (hvalues.resolve_left (Nat.lt_irrefl 0)).2
  · exact List.append_left_lt h

theorem zeroPadded_add (hw : 0 < w) (hk : 0 < k) (h : n < 10 ^ (w + k)) :
    (zeroPadded (w + k) n).toList = (zeroPadded w (n / 10 ^ k)).toList ++ (zeroPadded k (n % 10 ^ k)).toList := by
  have hquotient : n / 10 ^ k < 10 ^ w := Nat.div_lt_of_lt_mul (by rwa [← Nat.pow_add, Nat.add_comm k w])
  have hrest : n % 10 ^ k < 10 ^ k := Nat.mod_lt n (Nat.pow_pos (by omega))
  have hlength : (zeroPadded (w + k) n).toList.length =
      ((zeroPadded w (n / 10 ^ k)).toList ++ (zeroPadded k (n % 10 ^ k)).toList).length := by
    rw [List.length_append, length_zeroPadded (by omega) h, length_zeroPadded hw hquotient, length_zeroPadded hk hrest]
  have hdigits : ∀ c ∈ (zeroPadded w (n / 10 ^ k)).toList ++ (zeroPadded k (n % 10 ^ k)).toList, c.isDigit = true := by
    intro c hc
    rcases List.mem_append.mp hc with hc | hc <;> exact isDigit_of_mem_zeroPadded hc
  refine eq_of_ofDigitChars_eq hlength (fun _ => isDigit_of_mem_zeroPadded) hdigits ?_
  rw [ofDigitChars_zeroPadded, Nat.ofDigitChars_append, ofDigitChars_zeroPadded, Nat.ofDigitChars_eq_ofDigitChars_zero,
    ofDigitChars_zeroPadded, length_zeroPadded hk hrest, Nat.div_add_mod]

end Text

namespace Calendar

open Text

namespace Date

theorem MonthParts.months {t m' m d : Int} (h : MonthParts t m' m d) (y : Int) :
    12 * y + m = 12 * (if m ≤ 2 then y - 1 else y) + m' + 3 ∧ (t = 365 → m ≤ 2) := by
  obtain ⟨hmonth, -, hm, hpos, hlast, -⟩ := h
  constructor
  · split at hm <;> split <;> omega
  · rintro rfl
    split at hm <;> omega

theorem civil_lt {x z : Date} (h : x.days < z.days) : x.civil.year < z.civil.year ∨ x.civil.year = z.civil.year ∧
    (x.civil.month < z.civil.month ∨ x.civil.month = z.civil.month ∧ x.civil.day < z.civil.day) := by
  obtain ⟨y₁, m₁, d₁, t₁, m₁', hcivil₁, hmonth₁, hpos₁, hlast₁, hdays₁, -⟩ := civil_parts x
  obtain ⟨y₂, m₂, d₂, t₂, m₂', hcivil₂, hmonth₂, -, hlast₂, hdays₂, hleap₂⟩ := civil_parts z
  obtain ⟨hcount₁, -⟩ := hmonth₁.months y₁
  obtain ⟨hcount₂, hfeb₂⟩ := hmonth₂.months y₂
  obtain ⟨hm₁, hd₁⟩ : m₁' = (5 * t₁ + 2) / 153 ∧ d₁ = t₁ - (153 * m₁' + 2) / 5 + 1 := ⟨hmonth₁.month_eq, hmonth₁.day_eq⟩
  obtain ⟨hm₂, hd₂⟩ : m₂' = (5 * t₂ + 2) / 153 ∧ d₂ = t₂ - (153 * m₂' + 2) / 5 + 1 := ⟨hmonth₂.month_eq, hmonth₂.day_eq⟩
  have hrange₁ := hmonth₁.range
  have hrange₂ := hmonth₂.range
  generalize hmarch₁ : (if m₁ ≤ 2 then y₁ - 1 else y₁) = z₁ at hcount₁ hdays₁
  generalize hmarch₂ : (if m₂ ≤ 2 then y₂ - 1 else y₂) = z₂ at hcount₂ hdays₂
  -- the years from March, and in one year the days from its start, stand in the order of the dates
  have hle : z₁ ≤ z₂ := by
    by_contra hlt
    have hleap : t₂ = 365 → isLeapYear (z₂ + 1) = true := by
      intro hlast
      have hsame : z₂ + 1 = y₂ := by
        rw [← hmarch₂, if_pos (hfeb₂ hlast)]
        omega
      rw [hsame]
      exact hleap₂ hlast
    have := marchDays_add_lt (by omega : z₂ < z₁) hlast₂ hleap
    omega
  have hdays : z₁ = z₂ → t₁ < t₂ := by
    rintro rfl
    omega
  have hmonths : 12 * y₁ + m₁ < 12 * y₂ + m₂ ∨ 12 * y₁ + m₁ = 12 * y₂ + m₂ ∧ d₁ < d₂ := by
    omega
  rw [hcivil₁, hcivil₂]
  simp only
  omega

end Date

namespace Clock

def unit (t : Clock) : Nat :=
  if t.fraction = 0 then 1000000000
  else if t.fraction % 1000000 = 0 then 1000000
  else if t.fraction % 1000 = 0 then 1000
  else 1

variable {t u : Clock}

theorem fraction_lt (t : Clock) : t.fraction < 10 ^ 9 := Nat.mod_lt t.nanos (by decide)

theorem fraction_add_unit_le (t : Clock) : t.fraction + t.unit ≤ 10 ^ 9 := by
  have hlt := t.fraction_lt
  unfold unit
  split
  · omega
  · split
    · omega
    · split <;> omega

theorem fractionText_of_ne_zero (h : t.fraction ≠ 0) : ∃ w, 0 < w ∧ w ≤ 9 ∧ t.unit = 10 ^ (9 - w) ∧
    t.fraction % t.unit = 0 ∧ (fractionText t).toList = '.' :: (zeroPadded w (t.fraction / t.unit)).toList := by
  simp only [fractionText, unit, if_neg h]
  split
  · exact ⟨3, by omega, by omega, rfl, by assumption, by simp⟩
  · split
    · exact ⟨6, by omega, by omega, rfl, by assumption, by simp⟩
    · exact ⟨9, by omega, by omega, rfl, Nat.mod_one _, by simp⟩

def tail (t : Clock) : List Char := (fractionText t).toList ++ ['Z']

theorem tail_of_zero (h : t.fraction = 0) : t.tail = ['Z'] := by
  simp [tail, fractionText, h]

theorem exists_zeroPadded_append {v w f : Nat} (hw : 0 < w) (hle : w ≤ v) (hv : v ≤ 9) (hf : f < 10 ^ 9) :
    ∃ rest : List Char, rest.length = v - w ∧ (∀ c ∈ rest, c.isDigit = true) ∧
      (zeroPadded v (f / 10 ^ (9 - v))).toList = (zeroPadded w (f / 10 ^ (9 - w))).toList ++ rest := by
  obtain ⟨k, rfl⟩ := Nat.exists_eq_add_of_le hle
  rcases Nat.eq_zero_or_pos k with rfl | hk
  · exact ⟨[], by simp, by simp, by simp⟩
  · have hpow : 10 ^ (9 - (w + k)) * 10 ^ k = 10 ^ (9 - w) := by
      rw [← Nat.pow_add]
      congr 1
      omega
    have hlt : f / 10 ^ (9 - (w + k)) < 10 ^ (w + k) := by
      refine Nat.div_lt_of_lt_mul ?_
      rwa [← Nat.pow_add, Nat.sub_add_cancel hv]
    have hsplit := zeroPadded_add hw hk hlt
    rw [Nat.div_div_eq_div_mul, hpow] at hsplit
    refine ⟨_, ?_, fun c => isDigit_of_mem_zeroPadded, hsplit⟩
    rw [length_zeroPadded hk (Nat.mod_lt _ (Nat.pow_pos (by omega)))]
    omega

theorem tail_lt_of_shortened (h : t.fraction < u.fraction) (hunit : u.fraction < t.fraction + t.unit) :
    u.tail < t.tail := by
  obtain ⟨v, hv, hv9, hunit_u, hmod_u, htext_u⟩ := fractionText_of_ne_zero (t := u) (by omega)
  by_cases hzero : t.fraction = 0
  · rw [tail_of_zero hzero, tail, htext_u, List.cons_append, List.cons_lt_cons_iff]
    exact .inl (by decide)
  · obtain ⟨w, hw, hw9, hunit_t, hmod_t, htext_t⟩ := fractionText_of_ne_zero hzero
    have hwv : w < v := by
      by_contra hle
      -- otherwise both are multiples of the unit, and there is none in between
      have hdvd : t.unit ∣ u.unit := by
        rw [hunit_t, hunit_u]
        exact Nat.pow_dvd_pow 10 (by omega)
      have hsub := Nat.dvd_sub (hdvd.trans (Nat.dvd_of_mod_eq_zero hmod_u)) (Nat.dvd_of_mod_eq_zero hmod_t)
      have := Nat.le_of_dvd (by omega) hsub
      omega
    obtain ⟨rest, hlength, hdigits, hsplit⟩ := exists_zeroPadded_append hw (Nat.le_of_lt hwv) hv9 u.fraction_lt
    have hsame : u.fraction / t.unit = t.fraction / t.unit := by
      obtain ⟨q, hq⟩ := Nat.dvd_of_mod_eq_zero hmod_t
      have hpos : 0 < t.unit := by omega
      rw [hq, Nat.mul_div_cancel_left q hpos]
      exact Nat.div_eq_of_lt_le (by rw [Nat.mul_comm]; omega) (by rw [Nat.succ_mul, Nat.mul_comm]; omega)
    rw [tail, tail, htext_u, htext_t, hunit_u, hsplit, ← hunit_t, hsame, List.cons_append, List.cons_append,
      List.cons_lt_cons_iff, List.append_assoc]
    refine .inr ⟨rfl, List.append_left_lt ?_⟩
    cases rest with
    | nil => exact absurd hlength (by simp; omega)
    | cons c rest =>
      have hc := Char.isDigit_iff_toNat.mp (hdigits c (by simp))
      rw [List.cons_append, List.cons_lt_cons_iff]
      exact .inl (Nat.lt_of_le_of_lt hc.2 (by decide))

theorem tail_lt_of_unit_le (h : t.fraction < u.fraction) (hunit : t.fraction + t.unit ≤ u.fraction) :
    t.tail < u.tail := by
  have hlt := u.fraction_lt
  have hzero : t.fraction ≠ 0 := by
    intro hzero
    have : t.unit = 10 ^ 9 := by simp [unit, hzero]
    omega
  obtain ⟨v, hv, hv9, hunit_u, hmod_u, htext_u⟩ := fractionText_of_ne_zero (t := u) (by omega)
  obtain ⟨w, hw, hw9, hunit_t, hmod_t, htext_t⟩ := fractionText_of_ne_zero hzero
  have hbound : ∀ {w}, w ≤ 9 → u.fraction / 10 ^ (9 - w) < 10 ^ w := by
    intro w hw9
    refine Nat.div_lt_of_lt_mul ?_
    rwa [← Nat.pow_add, Nat.sub_add_cancel hw9]
  rw [tail, tail, htext_u, htext_t, hunit_u, hunit_t, List.cons_append, List.cons_append, List.cons_lt_cons_iff]
  refine .inr ⟨rfl, ?_⟩
  rcases Nat.le_total w v with hle | hle
  · obtain ⟨rest, -, -, hsplit⟩ := exists_zeroPadded_append hw hle hv9 hlt
    rw [hsplit, List.append_assoc]
    refine zeroPadded_append_lt hw (hbound hw9) (.inl ?_)
    rw [← hunit_t]
    have hpos : 0 < t.unit := by
      rw [hunit_t]
      exact Nat.pow_pos (by omega)
    have hstep := Nat.div_le_div_right (c := t.unit) hunit
    rw [Nat.add_div_right _ hpos] at hstep
    exact hstep
  · obtain ⟨rest, -, -, hsplit⟩ := exists_zeroPadded_append hv hle hw9 t.fraction_lt
    rw [hsplit, List.append_assoc]
    refine zeroPadded_append_lt hv (hbound hv9) (.inl ?_)
    rw [← hunit_u]
    exact Nat.div_lt_div_of_lt_of_dvd (Nat.dvd_of_mod_eq_zero hmod_u) h

end Clock

namespace Moment

/-- The later moment has the same text but for more digits: it comes by less than the last place of the earlier one's
text after it. -/
def Shortens (a b : Moment) : Prop :=
  a.date = b.date ∧ a.clock.seconds = b.clock.seconds ∧ a.clock.nanos < b.clock.nanos ∧
    b.clock.nanos < a.clock.nanos + a.clock.unit

variable {a b : Moment}

theorem le_iff : a.le b = true ↔ a.key.1 < b.key.1 ∨ a.key.1 = b.key.1 ∧ a.key.2 ≤ b.key.2 := by
  simp [le]

theorem Shortens.not_le (h : a.Shortens b) : ¬ b.le a = true := by
  obtain ⟨hdate, hseconds, hlt, -⟩ := h
  simp only [le_iff, key, hdate, hseconds]
  omega

theorem Shortens.irrefl : ¬a.Shortens a := fun h => Nat.lt_irrefl _ h.2.2.1

theorem Storable.utcText_lt (ha : a.Storable) (hb : b.Storable)
    (h : a.date.civil.year < b.date.civil.year ∨ a.date.civil.year = b.date.civil.year ∧
      (a.date.civil.month < b.date.civil.month ∨ a.date.civil.month = b.date.civil.month ∧
        (a.date.civil.day < b.date.civil.day ∨ a.date.civil.day = b.date.civil.day ∧
          (a.clock.hour < b.clock.hour ∨ a.clock.hour = b.clock.hour ∧
            (a.clock.minute < b.clock.minute ∨ a.clock.minute = b.clock.minute ∧
              (a.clock.second < b.clock.second ∨ a.clock.second = b.clock.second ∧
                a.clock.tail < b.clock.tail)))))) : utcText a < utcText b := by
  have hcons : ∀ {c : Char} {cs ds : List Char}, cs < ds → c :: cs < c :: ds :=
    fun h => List.cons_lt_cons_iff.mpr (.inr ⟨rfl, h⟩)
  obtain ⟨hyear, hmonth, hday⟩ := hb.civil_lt
  obtain ⟨hhour, hminute, hsecond⟩ := hb.clock_lt
  have hyears : a.date.civil.year < b.date.civil.year → a.date.civil.year.toNat < b.date.civil.year.toNat := by
    have := ha.year.1
    simp only [Date.year] at this
    omega
  change (utcText a).toList < (utcText b).toList
  rw [ha.toList_utcText, hb.toList_utcText]
  refine zeroPadded_append_lt (by omega) hyear (h.imp hyears fun h => ⟨by rw [h.1], hcons ?_⟩)
  refine zeroPadded_append_lt (by omega) hmonth (h.2.imp_right fun h => ⟨h.1, hcons ?_⟩)
  refine zeroPadded_append_lt (by omega) hday (h.2.imp_right fun h => ⟨h.1, hcons ?_⟩)
  refine zeroPadded_append_lt (by omega) hhour (h.2.imp_right fun h => ⟨h.1, hcons ?_⟩)
  refine zeroPadded_append_lt (by omega) hminute (h.2.imp_right fun h => ⟨h.1, hcons ?_⟩)
  exact zeroPadded_append_lt (by omega) hsecond h.2

theorem Storable.utcText_lt_of_not_le (ha : a.Storable) (hb : b.Storable) (h : ¬ b.le a = true)
    (hshort : ¬ a.Shortens b) : utcText a < utcText b := by
  have hseconds_a := ha.seconds
  have hseconds_b := hb.seconds
  have hleap := ha.leap
  refine ha.utcText_lt hb ?_
  simp only [le_iff, key] at h
  by_cases hdays : a.date.days < b.date.days
  · rcases Date.civil_lt hdays with hyear | ⟨hyear, hmonth | ⟨hmonth, hday⟩⟩
    · exact .inl hyear
    · exact .inr ⟨hyear, .inl hmonth⟩
    · exact .inr ⟨hyear, .inr ⟨hmonth, .inl hday⟩⟩
  · have hdate : a.date = b.date := by
      have : a.date.days = b.date.days := by omega
      cases hd : a.date
      simp_all
    rw [hdate]
    refine .inr ⟨rfl, .inr ⟨rfl, .inr ⟨rfl, ?_⟩⟩⟩
    by_cases hlt : a.clock.seconds < b.clock.seconds
    · have hparts : a.clock.hour < b.clock.hour ∨ a.clock.hour = b.clock.hour ∧ (a.clock.minute < b.clock.minute ∨
          a.clock.minute = b.clock.minute ∧ a.clock.second < b.clock.second) := by
        simp only [Clock.hour, Clock.minute, Clock.second]
        omega
      exact hparts.imp_right fun h => ⟨h.1, h.2.imp_right fun h => ⟨h.1, .inl h.2⟩⟩
    · have hsame : a.clock.seconds = b.clock.seconds := by omega
      refine .inr ⟨by simp only [Clock.hour, hsame], .inr ⟨by simp only [Clock.minute, hsame], ?_⟩⟩
      by_cases hsecond : a.clock.second < b.clock.second
      · exact .inl hsecond
      · have hunit : ¬ b.clock.nanos < a.clock.nanos + a.clock.unit := fun hunit =>
          hshort ⟨hdate, hsame, by omega, hunit⟩
        simp only [Clock.second, hsame] at hsecond ⊢
        have hfractions : a.clock.fraction < b.clock.fraction ∧
            a.clock.fraction + a.clock.unit ≤ b.clock.fraction := by
          simp only [Clock.fraction]
          omega
        exact .inr ⟨by omega, Clock.tail_lt_of_unit_le hfractions.1 hfractions.2⟩

theorem Storable.utcText_lt_of_shortens (ha : a.Storable) (hb : b.Storable) (h : a.Shortens b) :
    utcText b < utcText a := by
  obtain ⟨hdate, hseconds, hlt, hunit⟩ := h
  have hle := a.clock.fraction_add_unit_le
  have hfractions : b.clock.nanos / 1000000000 = a.clock.nanos / 1000000000 ∧
      a.clock.fraction < b.clock.fraction ∧ b.clock.fraction < a.clock.fraction + a.clock.unit := by
    simp only [Clock.fraction] at hle ⊢
    omega
  have hhour : b.clock.hour = a.clock.hour := by rw [Clock.hour, Clock.hour, hseconds]
  have hminute : b.clock.minute = a.clock.minute := by rw [Clock.minute, Clock.minute, hseconds]
  have hsecond : b.clock.second = a.clock.second := by rw [Clock.second, Clock.second, hseconds, hfractions.1]
  refine hb.utcText_lt ha ?_
  rw [hdate]
  exact .inr ⟨rfl, .inr ⟨rfl, .inr ⟨rfl, .inr ⟨hhour, .inr ⟨hminute, .inr ⟨hsecond,
    Clock.tail_lt_of_shortened hfractions.2.1 hfractions.2.2⟩⟩⟩⟩⟩⟩

theorem Storable.eq_of_le (ha : a.Storable) (hb : b.Storable) (hab : a.le b = true) (hba : b.le a = true) : a = b := by
  have hseconds_a := ha.seconds
  have hseconds_b := hb.seconds
  obtain ⟨⟨days_a⟩, ⟨seconds_a, nanos_a⟩⟩ := a
  obtain ⟨⟨days_b⟩, ⟨seconds_b, nanos_b⟩⟩ := b
  simp only [le_iff, key] at hab hba hseconds_a hseconds_b
  simp only [Moment.mk.injEq, Date.mk.injEq, Clock.mk.injEq]
  omega

theorem Storable.utcText_lt_iff (ha : a.Storable) (hb : b.Storable) :
    utcText a < utcText b ↔ (¬ b.le a = true ∧ ¬ a.Shortens b) ∨ b.Shortens a := by
  constructor
  · intro hlt
    by_cases hle : b.le a = true
    · right
      by_contra hshort
      by_cases hge : a.le b = true
      · rw [ha.eq_of_le hb hge hle] at hlt
        exact String.lt_irrefl _ hlt
      · exact String.lt_asymm hlt (hb.utcText_lt_of_not_le ha hge hshort)
    · exact .inl ⟨hle, fun hshort => String.lt_asymm hlt (ha.utcText_lt_of_shortens hb hshort)⟩
  · rintro (⟨hle, hshort⟩ | hshort)
    · exact ha.utcText_lt_of_not_le hb hle hshort
    · exact hb.utcText_lt_of_shortens ha hshort

end Moment

end Calendar

end PortfolioReports
