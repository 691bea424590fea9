import PortfolioReports.Proofs.Calendar.TextOrder
import PortfolioReports.Proofs.Spreadsheet.Table

/-!
A sheet is given the last sixteen bits of a year only, so dates that are whole multiples of 65536 years apart come to
be the same.
-/

namespace PortfolioReports

open Calendar

/-- The days since the last of 1899, with a 29 February 1900 among them that was not. -/
def Calendar.Date.dayNumber (d : Date) : ℤ :=
  if d.days - Serial.epoch < 60 then d.days - Serial.epoch else d.days - Serial.epoch + 1

namespace Calendar.Date

theorem dayNumber_injective : Function.Injective dayNumber := by
  rintro ⟨x⟩ ⟨z⟩ h
  simp only [dayNumber] at h
  congr 1
  split at h <;> split at h <;> omega

theorem dayNumber_ne_sixty (d : Date) : d.dayNumber ≠ 60 := by
  unfold dayNumber
  split <;> omega

theorem civil_ne_gap (d : Date) : d.civil ≠ Serial.gap := by
  intro h
  obtain ⟨-, -, -, hday⟩ := d.civil_valid
  rw [h] at hday
  exact absurd hday (by decide)

end Calendar.Date

namespace Serial

variable {m m' : Moment} {s s' : Serial}

def IsOf (s : Serial) (m : Moment) : Prop := (s.days : ℤ) = m.date.dayNumber ∧ s.seconds = m.clock.seconds

theorem yearWord_toNat (y : ℤ) : ((yearWord y).toNat : ℤ) = y % 65536 := by
  have hpos := Int.emod_nonneg y (show (65536 : ℤ) ≠ 0 by decide)
  have hlt := Int.emod_lt_of_pos y (show (0 : ℤ) < 65536 by decide)
  rw [yearWord, UInt16.toNat_ofNat_of_lt' (by change _ < 65536; omega), Int.toNat_of_nonneg hpos]

theorem ofMoment_eq_ok_iff : ofMoment m = .ok s ↔
    holds s.date = true ∧ s = ⟨{ m.date.civil with year := m.date.civil.year % 65536 }, m.clock.seconds⟩ := by
  unfold ofMoment
  dsimp only
  rw [yearWord_toNat]
  split
  · rename_i hheld
    rw [Except.ok.injEq]
    constructor
    · rintro rfl
      exact ⟨hheld, rfl⟩
    · rintro ⟨-, rfl⟩
      rfl
  · rename_i hnot
    refine iff_of_false (fun h => by cases h) ?_
    rintro ⟨hheld, rfl⟩
    exact hnot hheld

theorem civil_epoch : (⟨epoch⟩ : Date).civil = ⟨1899, 12, 31⟩ := Date.civil_countDays (by decide) (by decide)

theorem civil_march : (⟨epoch + 60⟩ : Date).civil = ⟨1900, 3, 1⟩ :=
  Date.civil_countDays (y := 1900) (m := 3) (d := 1) (by decide) (by decide)

theorem epoch_le_days {d : Date} (hyear : 1900 ≤ d.civil.year) : epoch ≤ d.days := by
  by_contra hless
  have hcivil := Date.civil_lt (x := d) (z := ⟨epoch⟩) (not_le.mp hless)
  rw [civil_epoch] at hcivil
  dsimp only at hcivil
  omega

theorem passed_lt_sixty_iff {d : Date} (hyear : 1900 ≤ d.civil.year) :
    d.days < epoch + 60 ↔ d.civil.year = 1900 ∧ d.civil.month ≤ 2 := by
  have hday := d.civil_valid.2.2.1
  rcases lt_trichotomy d.days (epoch + 60) with hlt | heq | hgt
  · have hcivil := Date.civil_lt (x := d) (z := ⟨epoch + 60⟩) hlt
    rw [civil_march] at hcivil
    dsimp only at hcivil
    omega
  · have hmarch : d.civil = ⟨1900, 3, 1⟩ := civil_march ▸ congrArg (fun days => (⟨days⟩ : Date).civil) heq
    rw [hmarch, heq]
    simp
  · have hcivil := Date.civil_lt (x := ⟨epoch + 60⟩) (z := d) hgt
    rw [civil_march] at hcivil
    dsimp only at hcivil
    omega

theorem days_of_gap (h : s.date = gap) : s.days = 60 := by
  rw [days, h]
  rfl

theorem holds_cases {c : Date.Civil} (h : holds c = true) :
    c = gap ∨ ∃ d : Date, d.civil = c ∧ ∀ seconds, ((⟨c, seconds⟩ : Serial).days : ℤ) = d.dayNumber := by
  simp only [holds, Bool.or_eq_true, beq_iff_eq, Bool.and_eq_true, decide_eq_true_eq] at h
  rcases h with (rfl | rfl) | ⟨⟨hyear, -⟩, hdate⟩
  · refine .inr ⟨⟨epoch⟩, civil_epoch, fun _ => ?_⟩
    simp [days, Date.dayNumber, epochDate, epoch]
  · exact .inl rfl
  · obtain ⟨y, month, day⟩ := c
    dsimp only at hyear
    obtain ⟨d, hdate⟩ := Option.isSome_iff_exists.mp hdate
    unfold Date.ofCivil? at hdate
    split at hdate
    · rename_i hvalid
      have hcivil : (⟨Date.countDays y month day⟩ : Date).civil = ⟨y, month, day⟩ :=
        Date.civil_countDays ⟨hvalid.2.2.1, hvalid.2.2.2.1⟩ hvalid.2.2.2.2
      refine .inr ⟨_, hcivil, fun _ => ?_⟩
      have hyear' : 1900 ≤ (⟨Date.countDays y month day⟩ : Date).civil.year := by rwa [hcivil]
      have hpos := epoch_le_days hyear'
      have hsixty := passed_lt_sixty_iff hyear'
      rw [hcivil] at hsixty
      simp only [days, Date.dayNumber] at hpos hsixty ⊢
      split <;> split <;> omega
    · cases hdate

def SameInWord (d d' : Date) : Prop :=
  d.civil.year % 65536 = d'.civil.year % 65536 ∧ d.civil.month = d'.civil.month ∧ d.civil.day = d'.civil.day

theorem isOf_iff (h : ofMoment m = .ok s) : s.IsOf m ↔ 0 ≤ m.date.civil.year ∧ m.date.civil.year < 65536 := by
  obtain ⟨hholds, hs⟩ := ofMoment_eq_ok_iff.mp h
  have hyear : (0 ≤ m.date.civil.year ∧ m.date.civil.year < 65536) ↔ s.date = m.date.civil := by
    rw [hs]
    constructor
    · rintro ⟨hpos, hlt⟩
      rw [Int.emod_eq_of_lt hpos hlt]
    · intro heq
      have hsame : m.date.civil.year % 65536 = m.date.civil.year := congrArg Date.Civil.year heq
      omega
  rw [hyear]
  have hseconds : s.seconds = m.clock.seconds := by rw [hs]
  rcases holds_cases hholds with hgap | ⟨d, hd, hdays⟩
  · rw [hgap]
    refine iff_of_false (fun hof => ?_) fun heq => m.date.civil_ne_gap heq.symm
    have hdays := hof.1
    rw [days_of_gap hgap] at hdays
    exact m.date.dayNumber_ne_sixty hdays.symm
  · rw [← hd]
    refine ⟨fun hof => ?_, fun heq => ?_⟩
    · rw [Date.dayNumber_injective ((hdays s.seconds).symm.trans hof.1)]
    · exact ⟨(hdays s.seconds).trans (congrArg _ (Date.eq_of_civil_eq heq)), hseconds⟩

theorem days_eq_iff (h : ofMoment m = .ok s) (h' : ofMoment m' = .ok s') :
    s.days = s'.days ↔ SameInWord m.date m'.date := by
  obtain ⟨hholds, hs⟩ := ofMoment_eq_ok_iff.mp h
  obtain ⟨hholds', hs'⟩ := ofMoment_eq_ok_iff.mp h'
  have hsame : SameInWord m.date m'.date ↔ s.date = s'.date := by
    rw [hs, hs', Date.Civil.mk.injEq]
    rfl
  rw [hsame]
  refine ⟨fun hdays => ?_, fun heq => by rw [days, days, heq]⟩
  rcases holds_cases hholds with hgap | ⟨d, hd, hd_days⟩
  · rcases holds_cases hholds' with hgap' | ⟨d', -, hd'_days⟩
    · rw [hgap, hgap']
    · have hdays' := hd'_days s'.seconds
      rw [← hdays, days_of_gap hgap] at hdays'
      exact absurd hdays'.symm d'.dayNumber_ne_sixty
  · have hday := hd_days s.seconds
    rcases holds_cases hholds' with hgap' | ⟨d', hd', hd'_days⟩
    · rw [hdays, days_of_gap hgap'] at hday
      exact absurd hday.symm d.dayNumber_ne_sixty
    · have hdays' := hd'_days s'.seconds
      rw [← hdays] at hdays'
      rw [← hd, ← hd', Date.dayNumber_injective (hday.symm.trans hdays')]

end Serial

def Cell.moment? : Cell → Option Moment
  | .date d => some ⟨d, .midnight⟩
  | .moment m => some m
  | _ => none

def momentAt? (columns : List Column) (rows : List Row) (i j : ℕ) : Option Moment :=
  (rows[i]?.bind fun r => (Column.values columns r)[j]?).bind Cell.moment?

namespace Sheet

def serialAt? (s : Sheet) (row column : ℕ) : Option Serial :=
  match (s.cell? ⟨UInt32.ofNat row, UInt16.ofNat column⟩).map SheetCell.content with
  | some (.serial serial) => some serial
  | _ => none

theorem ShowsTable.exists_serialAt? {setup : WorkbookSetup} {columns : List Column} {rows : List Row} {s : Sheet}
    (h : s.ShowsTable setup columns rows) {i j : ℕ} {m : Moment} (hm : momentAt? columns rows i j = some m) :
    ∃ serial, s.serialAt? (setup.headerRows + i) j = some serial ∧ Serial.ofMoment m = .ok serial := by
  obtain ⟨v, hv, hmoment⟩ := Option.bind_eq_some_iff.mp hm
  obtain ⟨r, hr, hvalue⟩ := Option.bind_eq_some_iff.mp hv
  obtain ⟨hrow, -⟩ := List.getElem?_eq_some_iff.mp hr
  obtain ⟨hcolumn, -⟩ := List.getElem?_eq_some_iff.mp hvalue
  rw [Column.values, List.length_map] at hcolumn
  have hlong := h.rows_le
  have hwide := h.columns_le
  have hrow' := Position.toNat_ofNat_row (i := setup.headerRows + i) (by omega)
  have hcolumn' := Position.toNat_ofNat_column (j := j) (by omega)
  have hshown := h.values ⟨UInt32.ofNat (setup.headerRows + i), UInt16.ofNat j⟩ i hrow'
  rw [hcolumn', hv] at hshown
  unfold serialAt?
  generalize s.cell? ⟨UInt32.ofNat (setup.headerRows + i), UInt16.ofNat j⟩ = c at hshown
  cases hshown with
  | some hshown =>
    cases hshown with
    | date hserial =>
      cases hmoment
      exact ⟨_, rfl, hserial⟩
    | moment hserial =>
      cases hmoment
      exact ⟨_, rfl, hserial⟩
    | _ => cases hmoment

end Sheet

namespace WorkbookSetup

/-- A table with dates is refused, or each of them is written as its own serial if its year fits a word of sixteen
bits, and as another's if not: two dates are written alike just when their years have the same word. -/
theorem serials_of_dates (setup : WorkbookSetup) (rows : List Row) (columns : List Column) :
    (∃ cause, setup.singleSheet rows columns = .error (.render (.sheet cause))) ∨
    ∃ w sheet, setup.singleSheet rows columns = .ok w ∧ w.sheets = [sheet] ∧
      ∀ i j m, momentAt? (Column.resolve columns rows) rows i j = some m →
        ∃ s, sheet.serialAt? (setup.headerRows + i) j = some s ∧
          (s.IsOf m ↔ 0 ≤ m.date.civil.year ∧ m.date.civil.year < 65536) ∧
          ∀ i' j' m' s', momentAt? (Column.resolve columns rows) rows i' j' = some m' →
            sheet.serialAt? (setup.headerRows + i') j' = some s' →
            (s.days = s'.days ↔ Serial.SameInWord m.date m'.date) := by
  rcases workbook_ok_or_error setup [⟨setup.sheetName, columns, rows⟩] with ⟨w, hw⟩ | herror
  · obtain ⟨created, sheet, -, hsheet, rfl⟩ := singleSheet_eq_ok_iff.mp hw
    refine .inr ⟨_, sheet, hw, rfl, fun i j m hm => ?_⟩
    have hcolumns : Column.resolve columns rows ≠ [] := by
      intro hnone
      simp [momentAt?, hnone, Column.values] at hm
    have hshows := (Sheet.fill_showsTable hcolumns (sheetOf_eq_ok_iff.mp hsheet).2).2
    obtain ⟨s, hs, hserial⟩ := hshows.exists_serialAt? hm
    refine ⟨s, hs, Serial.isOf_iff hserial, fun i' j' m' s' hm' hs' => ?_⟩
    obtain ⟨t, ht, hserial'⟩ := hshows.exists_serialAt? hm'
    obtain rfl : t = s' := Option.some.inj (ht.symm.trans hs')
    exact Serial.days_eq_iff hserial hserial'
  · exact .inl herror

def dayColumn : List Column := [⟨"day", "Day"⟩]

def leapDay : Moment := ⟨⟨Date.countDays 2024 2 29⟩, ⟨34200, 0⟩⟩

theorem serials_of_dates_leapDay : ∃ w sheet s, standard.singleSheet [⟨[("day", .moment leapDay)]⟩] dayColumn = .ok w ∧
    w.sheets = [sheet] ∧ sheet.serialAt? 1 0 = some s ∧ s.IsOf leapDay := by
  have hok : (standard.singleSheet [⟨[("day", .moment leapDay)]⟩] dayColumn).isOk = true := by decide +kernel
  obtain ⟨w, hw⟩ := exists_eq_ok_of_isOk hok
  rcases serials_of_dates standard [⟨[("day", .moment leapDay)]⟩] dayColumn with
    ⟨cause, herror⟩ | ⟨w', sheet, hw', hsheet, hdates⟩
  · cases hw.symm.trans herror
  · obtain ⟨s, hs, hof, -⟩ := hdates 0 0 leapDay rfl
    exact ⟨w', sheet, s, hw', hsheet, hs, hof.mpr (by decide)⟩

def distantDay : Date := ⟨Date.countDays 67436 1 1⟩

def newYear1900 : Date := ⟨Date.countDays 1900 1 1⟩

theorem distantDay_written_newYear1900 :
    (standard.singleSheet [⟨[("day", .date distantDay)]⟩, ⟨[("day", .date newYear1900)]⟩] dayColumn).toOption.map
        (fun w => w.sheets.map fun sheet => (sheet.serialAt? 1 0, sheet.serialAt? 2 0)) =
      some [(some ⟨⟨1900, 1, 1⟩, 0⟩, some ⟨⟨1900, 1, 1⟩, 0⟩)] ∧
    distantDay ≠ newYear1900 ∧ distantDay.year ≤ Date.lastYear ∧
    ¬(⟨⟨1900, 1, 1⟩, 0⟩ : Serial).IsOf ⟨distantDay, .midnight⟩ := by
  refine ⟨by decide +kernel, by decide, by decide, fun hof => ?_⟩
  exact absurd hof.1 (by decide)

end WorkbookSetup

end PortfolioReports
