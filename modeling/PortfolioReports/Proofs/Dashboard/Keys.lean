import PortfolioReports.Dashboard.Board
import PortfolioReports.Proofs.Calendar.Stamp
import PortfolioReports.Proofs.Uuid

namespace PortfolioReports

open Text

namespace Text

theorem zeroPadded_inj {w n n' : Nat} (h : zeroPadded w n = zeroPadded w n') : n = n' := by
  rw [← ofDigitChars_zeroPadded w n, h, ofDigitChars_zeroPadded]

theorem append_cons_inj_of_notMem_right {c : Char} {a a' b b' : List Char} (hb : c ∉ b) (hb' : c ∉ b') :
    a ++ c :: b = a' ++ c :: b' ↔ a = a' ∧ b = b' := by
  constructor
  · intro h
    -- the longer of the two first parts would have the character of the other one in what follows
    have hnil : ∀ {t u v : List Char}, c ∉ u → c :: u = t ++ c :: v → t = [] := by
      intro t u v hu ht
      cases t with
      | nil => rfl
      | cons d t =>
        have htail : u = t ++ c :: v := (List.cons.inj ht).2
        exact absurd (htail ▸ by simp) hu
    rcases List.append_eq_append_iff.mp h with ⟨t, ha, ht⟩ | ⟨t, ha, ht⟩
    · obtain rfl := hnil hb ht
      exact ⟨by simpa using ha.symm, by simpa using ht⟩
    · obtain rfl := hnil hb' ht
      exact ⟨by simpa using ha, by simpa using ht.symm⟩
  · rintro ⟨rfl, rfl⟩
    rfl

theorem toList_joined (a b : String) : (a ++ "_" ++ b).toList = a.toList ++ '_' :: b.toList := by simp

end Text

namespace Calendar

theorem yearText_inside {y : Int} (h : 0 ≤ y ∧ y ≤ 9999) : yearText y = zeroPadded 4 y.toNat := if_pos h

theorem yearText_outside {y : Int} (h : ¬ (0 ≤ y ∧ y ≤ 9999)) :
    yearText y = (if y < 0 then "-" else "+") ++ zeroPadded 4 y.natAbs := if_neg h

theorem yearText_inj {y y' : Int} (h : yearText y = yearText y') : y = y' := by
  -- four digits or more do not start with a sign
  have hsign : ∀ {y y' : Int}, 0 ≤ y ∧ y ≤ 9999 → ¬ (0 ≤ y' ∧ y' ≤ 9999) → yearText y ≠ yearText y' := by
    intro y y' hin hout heq
    rw [yearText_inside hin, yearText_outside hout] at heq
    have hmem : ∀ c ∈ (if y' < 0 then "-" else "+").toList, c.isDigit = true := by
      intro c hc
      refine isDigit_of_mem_zeroPadded (w := 4) (n := y.toNat) ?_
      rw [heq, String.toList_append]
      exact List.mem_append_left _ hc
    split at hmem <;> simp at hmem
  by_cases hin : 0 ≤ y ∧ y ≤ 9999 <;> by_cases hin' : 0 ≤ y' ∧ y' ≤ 9999
  · rw [yearText_inside hin, yearText_inside hin'] at h
    have := zeroPadded_inj h
    omega
  · exact absurd h (hsign hin hin')
  · exact absurd h.symm (hsign hin' hin)
  · rw [yearText_outside hin, yearText_outside hin', ← String.toList_inj] at h
    by_cases hneg : y < 0 <;> by_cases hneg' : y' < 0 <;>
      simp only [hneg, hneg', if_true, if_false, String.toList_append] at h
    · have := zeroPadded_inj (String.toList_inj.mp (List.append_cancel_left h))
      omega
    · simp at h
    · simp at h
    · have := zeroPadded_inj (String.toList_inj.mp (List.append_cancel_left h))
      omega

end Calendar

namespace Dashboard

open Calendar

theorem toList_compactDate (d : Date) : (compactDate d).toList =
    (yearText d.civil.year).toList ++ (zeroPadded 2 d.civil.month).toList ++ (zeroPadded 2 d.civil.day).toList := by
  simp [compactDate]

theorem compactDate_injective : Function.Injective compactDate := by
  intro d d' h
  have hlength : ∀ x : Date, (zeroPadded 2 x.civil.month).toList.length = 2 ∧
      (zeroPadded 2 x.civil.day).toList.length = 2 := by
    intro x
    obtain ⟨-, hmonth, -, hday⟩ := x.civil_valid
    have hdays := Date.daysInMonth_le x.civil.year x.civil.month
    exact ⟨length_zeroPadded (by omega) (by omega), length_zeroPadded (by omega) (by omega)⟩
  rw [← String.toList_inj, toList_compactDate, toList_compactDate] at h
  obtain ⟨hfront, hday⟩ := List.append_inj' h ((hlength d).2.trans (hlength d').2.symm)
  obtain ⟨hyear, hmonth⟩ := List.append_inj' hfront ((hlength d).1.trans (hlength d').1.symm)
  apply Date.eq_of_civil_eq
  rw [Date.Civil.mk.injEq]
  exact ⟨yearText_inj (String.toList_inj.mp hyear), zeroPadded_inj (String.toList_inj.mp hmonth),
    zeroPadded_inj (String.toList_inj.mp hday)⟩

theorem underscore_notMem_compactDate (d : Date) : '_' ∉ (compactDate d).toList := by
  have hpadded : ∀ w n, '_' ∉ (zeroPadded w n).toList := by
    intro w n hmem
    exact absurd (isDigit_of_mem_zeroPadded hmem) (by decide)
  have hyear : '_' ∉ (yearText d.civil.year).toList := by
    by_cases hin : 0 ≤ d.civil.year ∧ d.civil.year ≤ 9999
    · rw [yearText_inside hin]
      exact hpadded 4 _
    · rw [yearText_outside hin, String.toList_append, List.mem_append, not_or]
      refine ⟨?_, hpadded 4 _⟩
      split <;> decide
  rw [toList_compactDate, List.mem_append, List.mem_append, not_or, not_or]
  exact ⟨⟨hyear, hpadded 2 _⟩, hpadded 2 _⟩

theorem toList_seriesKey (q : SeriesQuery) : (seriesKey q).toList =
    "timeseries_".toList ++ (((q.metric.toList ++ '_' :: q.interval.toList) ++ '_' ::
      (compactDate q.start.date).toList) ++ '_' :: (compactDate q.stop.date).toList) := by
  have hkey : seriesKey q = "timeseries_" ++ q.metric ++ "_" ++ q.interval ++ "_" ++ compactDate q.start.date ++
      "_" ++ compactDate q.stop.date := by
    -- its equation is dear to make
    delta seriesKey
    rfl
  simp [hkey]

theorem seriesKey_eq_iff {q q' : SeriesQuery} : seriesKey q = seriesKey q' ↔
    q.metric ++ "_" ++ q.interval = q'.metric ++ "_" ++ q'.interval ∧ q.start.date = q'.start.date ∧
      q.stop.date = q'.stop.date := by
  rw [← String.toList_inj, toList_seriesKey, toList_seriesKey, List.append_cancel_left_eq,
    append_cons_inj_of_notMem_right (underscore_notMem_compactDate _) (underscore_notMem_compactDate _),
    append_cons_inj_of_notMem_right (underscore_notMem_compactDate _) (underscore_notMem_compactDate _),
    String.toList_inj, String.toList_inj, compactDate_injective.eq_iff, compactDate_injective.eq_iff,
    ← toList_joined, ← toList_joined, String.toList_inj, and_assoc]

theorem joined_inj {m m' i i' : String} (hi : '_' ∉ i.toList) (hi' : '_' ∉ i'.toList) :
    m ++ "_" ++ i = m' ++ "_" ++ i' ↔ m = m' ∧ i = i' := by
  rw [← String.toList_inj, toList_joined, toList_joined, append_cons_inj_of_notMem_right hi hi',
    String.toList_inj, String.toList_inj]

theorem toList_summaryKey (user? : Option Uuid) : (summaryKey user?).toList =
    globalKey.toList ++ (user?.elim [] fun u => '_' :: u.toText.toList) := by
  cases user? <;> simp [summaryKey]

theorem summaryKey_injective : Function.Injective summaryKey := by
  intro user? user'? h
  rw [← String.toList_inj, toList_summaryKey, toList_summaryKey, List.append_cancel_left_eq] at h
  cases user? with
  | none =>
    cases user'? with
    | none => rfl
    | some u' => cases h
  | some u =>
    cases user'? with
    | none => cases h
    | some u' =>
      have htext : u.toText = u'.toText := String.toList_inj.mp (List.cons.inj h).2
      rw [Uuid.toText_injective htext]

theorem seriesKey_ne_summaryKey (q : SeriesQuery) (user? : Option Uuid) : seriesKey q ≠ summaryKey user? := by
  intro h
  have hhead := congrArg (fun s => s.toList.head?) h
  simp only [toList_seriesKey, toList_summaryKey] at hhead
  simp [globalKey] at hhead

end Dashboard

end PortfolioReports
