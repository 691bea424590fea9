import Mathlib.Tactic.IntervalCases
import Mathlib.Tactic.NormNum
import PortfolioReports.Calendar.Date

/-!
Years are counted from March, so that the leap day comes last, in eras of four hundred years.
-/

namespace PortfolioReports.Calendar.Date

/-- A day of an era in full centuries, full spans of four years, full years and days, counted from March. -/
structure EraParts (n c q a t : Int) : Prop where
  sum : n = 36524 * c + 1461 * q + 365 * a + t
  century : 0 ≤ c ∧ c ≤ 3
  span : 0 ≤ q ∧ q ≤ 24
  year : 0 ≤ a ∧ a ≤ 3
  day : 0 ≤ t ∧ t ≤ 365
  leap : t = 365 → a = 3 ∧ (q = 24 → c = 3)

theorem exists_eraParts {n : Int} (h0 : 0 ≤ n) (h1 : n < 146097) : ∃ c q a t, EraParts n c q a t := by
  obtain ⟨c, r, hn, hc0, hc3, hr0, hr1, hrc⟩ : ∃ c r : Int, n = 36524 * c + r ∧ 0 ≤ c ∧ c ≤ 3 ∧ 0 ≤ r ∧ r ≤ 36524 ∧
      (r = 36524 → c = 3) := by
    by_cases hlast : n = 146096
    · exact ⟨3, 36524, by omega⟩
    · exact ⟨n / 36524, n % 36524, by omega⟩
  obtain ⟨q, s, hr, hq0, hq24, hs0, hs1, hsq⟩ : ∃ q s : Int, r = 1461 * q + s ∧ 0 ≤ q ∧ q ≤ 24 ∧ 0 ≤ s ∧ s ≤ 1460 ∧
      (s = 1460 → q = 24 → r = 36524) := by
    exact ⟨r / 1461, r % 1461, by omega⟩
  obtain ⟨a, t, hs, ha0, ha3, ht0, ht1, hta⟩ : ∃ a t : Int, s = 365 * a + t ∧ 0 ≤ a ∧ a ≤ 3 ∧ 0 ≤ t ∧ t ≤ 365 ∧
      (t = 365 → a = 3 ∧ s = 1460) := by
    by_cases hlast : s = 1460
    · exact ⟨3, 365, by omega⟩
    · exact ⟨s / 365, s % 365, by omega⟩
  exact ⟨c, q, a, t, by omega, by omega, by omega, by omega, by omega, by omega⟩

theorem yearOfEra_eq {n c q a t : Int} (h : EraParts n c q a t) :
    (n - n / 1460 + n / 36524 - n / 146096) / 365 = 100 * c + 4 * q + a := by
  obtain ⟨hsum, hc, hq, ha, ht, hleap⟩ := h
  -- the first quotient counts the spans of four years, and one more in the last days of one
  obtain ⟨e, he, hsmall, hlarge⟩ : ∃ e : Int, n / 1460 = 25 * c + q + e ∧ 0 ≤ e ∧
      (e = 0 ∧ 24 * c + q + 365 * a + t < 1460 ∨ e = 1 ∧ 1460 ≤ 24 * c + q + 365 * a + t) := by
    exact ⟨n / 1460 - 25 * c - q, by omega, by omega, by omega⟩
  by_cases hlast : n = 146096
  · omega
  · have h1 : n / 146096 = 0 := by omega
    have h2 : n / 36524 = c := by omega
    rw [h1, h2, he]
    omega

theorem month_of_day {t m : Int} (h0 : 0 ≤ t) (h1 : t ≤ 365) (hm : m = (5 * t + 2) / 153) :
    0 ≤ m ∧ m ≤ 11 ∧ (153 * m + 2) / 5 ≤ t ∧ (t < (153 * (m + 1) + 2) / 5 ∨ m = 11) := by
  omega

theorem isLeapYear_iff (y : Int) : isLeapYear y = true ↔ y % 4 = 0 ∧ (y % 100 ≠ 0 ∨ y % 400 = 0) := by
  simp [isLeapYear]

theorem quotients {n c q a t : Int} (h : EraParts n c q a t) (era : Int) :
    (100 * c + 4 * q + a + 400 * era) / 4 = 25 * c + q + 100 * era ∧
      (100 * c + 4 * q + a + 400 * era) / 100 = c + 4 * era ∧ (100 * c + 4 * q + a + 400 * era) / 400 = era := by
  obtain ⟨-, hc, hq, ha, -, -⟩ := h
  refine ⟨?_, ?_, ?_⟩ <;> omega

theorem marchDays_eq {n c q a t : Int} (h : EraParts n c q a t) (era : Int) :
    marchDays (100 * c + 4 * q + a + 400 * era) + t = n + 146097 * era - 719468 := by
  obtain ⟨h4, h100, h400⟩ := quotients h era
  rw [marchDays, h4, h100, h400, h.sum]
  omega

theorem dayOfYear_eq {n c q a t : Int} (h : EraParts n c q a t) :
    n - (365 * (100 * c + 4 * q + a) + (100 * c + 4 * q + a) / 4 - (100 * c + 4 * q + a) / 100) = t := by
  obtain ⟨h4, h100, -⟩ := quotients h 0
  simp only [Int.mul_zero, Int.add_zero] at h4 h100
  rw [h4, h100, h.sum]
  omega

theorem leapYear_of_last {n c q a t : Int} (h : EraParts n c q a t) (hlast : t = 365) (era : Int) :
    isLeapYear (100 * c + 4 * q + a + era * 400 + 1) = true := by
  obtain ⟨ha, hq⟩ := h.leap hlast
  have hc := h.century
  have hspan := h.span
  subst ha
  rw [isLeapYear_iff]
  omega

structure MonthParts (t m' m d : Int) : Prop where
  month_eq : m' = (5 * t + 2) / 153
  day_eq : d = t - (153 * m' + 2) / 5 + 1
  named : m = if m' < 10 then m' + 3 else m' - 9
  bounds : 0 ≤ m' ∧ m' ≤ 11 ∧ (153 * m' + 2) / 5 ≤ t ∧ (t < (153 * (m' + 1) + 2) / 5 ∨ m' = 11)

theorem civil_parts (x : Date) : ∃ y m d t m' : Int, x.civil = ⟨y, m.toNat, d.toNat⟩ ∧ MonthParts t m' m d ∧
    0 ≤ t ∧ t ≤ 365 ∧ marchDays (if m ≤ 2 then y - 1 else y) + t = x.days ∧ (t = 365 → isLeapYear y = true) := by
  have hpos := Int.emod_nonneg (x.days + 719468) (show (146097 : Int) ≠ 0 by omega)
  have hlt := Int.emod_lt_of_pos (x.days + 719468) (show (0 : Int) < 146097 by omega)
  obtain ⟨c, q, a, t, hparts⟩ := exists_eraParts hpos hlt
  have hdays := Int.mul_ediv_add_emod (x.days + 719468) 146097
  have hyear := yearOfEra_eq hparts
  have hday := dayOfYear_eq hparts
  have hmarch := marchDays_eq hparts ((x.days + 719468) / 146097)
  have hleap := fun hlast => leapYear_of_last hparts hlast ((x.days + 719468) / 146097)
  obtain ⟨ht0, ht1⟩ := hparts.day
  have hbounds := month_of_day ht0 ht1 rfl
  obtain ⟨m', hm'⟩ : ∃ m' : Int, m' = (5 * t + 2) / 153 := ⟨_, rfl⟩
  obtain ⟨m, hm⟩ : ∃ m : Int, m = if m' < 10 then m' + 3 else m' - 9 := ⟨_, rfl⟩
  have hcivil : x.civil = ⟨100 * c + 4 * q + a + (x.days + 719468) / 146097 * 400 + (if m ≤ 2 then 1 else 0),
      m.toNat, (t - (153 * m' + 2) / 5 + 1).toNat⟩ := by
    simp only [civil, hyear, hday, hm, hm']
  refine ⟨_, m, _, t, m', hcivil, ⟨hm', rfl, hm, month_of_day ht0 ht1 hm'⟩, ht0, ht1, ?_, ?_⟩
  · have hsame :
        (if m ≤ 2 then 100 * c + 4 * q + a + (x.days + 719468) / 146097 * 400 + (if m ≤ 2 then 1 else 0) - 1
        else 100 * c + 4 * q + a + (x.days + 719468) / 146097 * 400 + (if m ≤ 2 then 1 else 0)) =
        100 * c + 4 * q + a + 400 * ((x.days + 719468) / 146097) := by
      split <;> omega
    rw [hsame, hmarch]
    omega
  · intro hlast
    have hfeb : m ≤ 2 := by
      subst hlast hm' hm
      decide
    rw [if_pos hfeb]
    exact hleap hlast

variable {t m' m d : Int}

theorem MonthParts.range (h : MonthParts t m' m d) : 1 ≤ m ∧ m ≤ 12 ∧ 1 ≤ d := by
  obtain ⟨-, hday, hm, hb0, hb11, hle, -⟩ := h
  have hmonth : 1 ≤ m ∧ m ≤ 12 := by
    rw [hm]
    split <;> omega
  omega

theorem MonthParts.day_le (h : MonthParts t m' m d) (ht : t ≤ 365) {y : Int}
    (hleap : t = 365 → isLeapYear y = true) :
    d.toNat ≤ daysInMonth y m.toNat := by
  obtain ⟨-, hday, hm, hb0, hb11, hle, hlt⟩ := h
  by_cases hfeb : m' = 11
  · -- February has its leap day in the last day of the year only
    subst hfeb
    have hm2 : m.toNat = 2 := by rw [hm]; rfl
    by_cases hlast : t = 365
    · simp only [daysInMonth, hm2, hleap hlast, if_true]
      omega
    · simp only [daysInMonth, hm2, if_true]
      split <;> omega
  · have hlt' : t < (153 * (m' + 1) + 2) / 5 := by omega
    have hd : d ≤ (153 * (m' + 1) + 2) / 5 - (153 * m' + 2) / 5 := by omega
    have hmonth : m' ≤ 10 := by omega
    clear hday hle hlt hlt' hfeb hb11
    interval_cases m' <;> subst hm <;> norm_num [daysInMonth] <;> omega

theorem MonthParts.count (h : MonthParts t m' m d) (y : Int) :
    countDays y m.toNat d.toNat = marchDays (if m ≤ 2 then y - 1 else y) + t := by
  obtain ⟨hm1, hm12, hd1⟩ := h.range
  obtain ⟨-, hday, hm, hb0, hb11, -, -⟩ := h
  have hd : (d.toNat : Int) = d := Int.toNat_of_nonneg (by omega)
  by_cases hfeb : m ≤ 2
  · have hfeb' : m.toNat ≤ 2 := by omega
    have hshift : ((m.toNat + 9 : Nat) : Int) = m' := by split at hm <;> omega
    simp only [countDays, hfeb', hfeb, if_true, hd]
    push_cast at hshift ⊢
    rw [hshift]
    omega
  · have hfeb' : ¬ m.toNat ≤ 2 := by omega
    have hshift : ((m.toNat - 3 : Nat) : Int) = m' := by split at hm <;> omega
    simp only [countDays, hfeb', hfeb, if_false, hd]
    rw [hshift]
    omega

theorem civil_valid (x : Date) : 1 ≤ x.civil.month ∧ x.civil.month ≤ 12 ∧ 1 ≤ x.civil.day ∧
    x.civil.day ≤ daysInMonth x.civil.year x.civil.month := by
  obtain ⟨y, m, d, t, m', hcivil, hmonth, -, ht1, -, hleap⟩ := civil_parts x
  obtain ⟨hm1, hm12, hd1⟩ := hmonth.range
  have hmonths : 1 ≤ m.toNat ∧ m.toNat ≤ 12 ∧ 1 ≤ d.toNat := by omega
  rw [hcivil]
  exact ⟨hmonths.1, hmonths.2.1, hmonths.2.2, hmonth.day_le ht1 hleap⟩

theorem countDays_civil (x : Date) : countDays x.civil.year x.civil.month x.civil.day = x.days := by
  obtain ⟨y, m, d, t, m', hcivil, hmonth, -, -, hmarch, -⟩ := civil_parts x
  rw [hcivil, hmonth.count, hmarch]

theorem ofCivil?_civil {x : Date} (hfirst : firstYear ≤ x.year) (hlast : x.year ≤ lastYear) :
    ofCivil? x.civil.year x.civil.month x.civil.day = some x := by
  rw [ofCivil?, if_pos ⟨hfirst, hlast, x.civil_valid⟩, countDays_civil]

theorem daysInMonth_le (y : Int) (m : Nat) : daysInMonth y m ≤ 31 := by
  unfold daysInMonth
  split
  · split <;> omega
  · split <;> omega

theorem marchDays_add_lt {y z t : Int} (h : y < z) (ht : t ≤ 365) (hleap : t = 365 → isLeapYear (y + 1) = true) :
    marchDays y + t < marchDays z := by
  have hmono : marchDays (y + 1) ≤ marchDays z := by
    simp only [marchDays]
    omega
  have hyear : marchDays y + t < marchDays (y + 1) := by
    simp only [isLeapYear_iff] at hleap
    simp only [marchDays]
    omega
  omega

theorem monthParts_of_valid {y : Int} {m d : Nat} (hm : 1 ≤ m ∧ m ≤ 12) (hd : 1 ≤ d ∧ d ≤ daysInMonth y m) :
    ∃ t m' : Int, MonthParts t m' m d ∧ 0 ≤ t ∧ t ≤ 365 ∧ (t = 365 → m = 2 ∧ isLeapYear y = true) := by
  obtain ⟨hlow, hhigh⟩ := hm
  obtain ⟨hfirst, hlast⟩ := hd
  refine ⟨(153 * (if m ≤ 2 then (m : Int) + 9 else m - 3) + 2) / 5 + d - 1, if m ≤ 2 then (m : Int) + 9 else m - 3, ?_⟩
  by_cases hfeb : m = 2
  · subst hfeb
    unfold daysInMonth at hlast
    rw [if_pos rfl] at hlast
    have hleap : d = 29 → isLeapYear y = true := by
      rintro rfl
      by_contra hnot
      rw [if_neg hnot] at hlast
      omega
    have hle : d ≤ 29 := by
      split at hlast <;> omega
    norm_num
    exact ⟨⟨by omega, by omega, by norm_num, by omega⟩, by omega, by omega, fun ht => hleap (by omega)⟩
  · have hle : d ≤ if m = 4 ∨ m = 6 ∨ m = 9 ∨ m = 11 then 30 else 31 := by
      rwa [daysInMonth, if_neg hfeb] at hlast
    clear hlast
    interval_cases m <;> first
      | exact absurd rfl hfeb
      | norm_num at hle ⊢
        exact ⟨⟨by omega, by omega, by norm_num, by omega⟩, by omega, by omega, by omega⟩

theorem civil_countDays {y : Int} {m d : Nat} (hm : 1 ≤ m ∧ m ≤ 12) (hd : 1 ≤ d ∧ d ≤ daysInMonth y m) :
    (⟨countDays y m d⟩ : Date).civil = ⟨y, m, d⟩ := by
  obtain ⟨t, m', hmonth, hpos, hlast, hleap⟩ := monthParts_of_valid hm hd
  have hcount : countDays y m d = marchDays (if (m : Int) ≤ 2 then y - 1 else y) + t := hmonth.count y
  obtain ⟨y₂, m₂, d₂, t₂, m₂', hcivil, hmonth₂, hpos₂, hlast₂, hdays, hleap₂⟩ := civil_parts ⟨countDays y m d⟩
  change _ = countDays y m d at hdays
  rw [hcivil]
  rw [hcount] at hdays
  -- Both years are counted from March, and neither ends before the other begins.
  have hfeb₂ : t₂ = 365 → m₂ ≤ 2 := by
    rintro rfl
    rw [hmonth₂.named, hmonth₂.month_eq]
    decide
  have hyear : (if m₂ ≤ 2 then y₂ - 1 else y₂) = if (m : Int) ≤ 2 then y - 1 else y := by
    rcases lt_trichotomy (if m₂ ≤ 2 then y₂ - 1 else y₂) (if (m : Int) ≤ 2 then y - 1 else y) with hlt | heq | hgt
    · have := marchDays_add_lt hlt hlast₂ fun ht => by
        rw [if_pos (hfeb₂ ht), Int.sub_add_cancel]
        exact hleap₂ ht
      omega
    · exact heq
    · have := marchDays_add_lt hgt hlast fun ht => by
        obtain ⟨rfl, hlong⟩ := hleap ht
        exact (Int.sub_add_cancel y 1).symm ▸ hlong
      omega
  rw [hyear] at hdays
  obtain rfl : t₂ = t := by omega
  have hparts : m₂' = m' := by rw [hmonth₂.month_eq, hmonth.month_eq]
  subst hparts
  have hsame : m₂ = m ∧ d₂ = d := ⟨by rw [hmonth₂.named, hmonth.named], by rw [hmonth₂.day_eq, hmonth.day_eq]⟩
  obtain ⟨rfl, rfl⟩ := hsame
  have hy : y₂ = y := by
    split at hyear <;> omega
  rw [hy, Int.toNat_natCast, Int.toNat_natCast]

theorem eq_of_civil_eq {x z : Date} (h : x.civil = z.civil) : x = z := by
  have hdays : x.days = z.days := by rw [← countDays_civil x, h, countDays_civil z]
  cases x
  cases z
  exact congrArg Date.mk hdays

end PortfolioReports.Calendar.Date
