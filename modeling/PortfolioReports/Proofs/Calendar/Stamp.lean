import PortfolioReports.Calendar.Reading
import PortfolioReports.Proofs.Calendar.Civil

namespace PortfolioReports

namespace Text

variable {w n : Nat}

theorem toList_zeroPadded (w n : Nat) :
    (zeroPadded w n).toList = List.replicate (w - (Nat.toDigits 10 n).length) '0' ++ Nat.toDigits 10 n := by
  have hlength : n.repr.length = (Nat.toDigits 10 n).length := by rw [← String.length_toList, Nat.toList_repr]
  simp [zeroPadded, padLeft, hlength]

theorem length_zeroPadded (hw : 0 < w) (h : n < 10 ^ w) : (zeroPadded w n).toList.length = w := by
  have hle := (Nat.length_toDigits_le_iff (by omega) hw).mpr h
  rw [toList_zeroPadded, List.length_append, List.length_replicate]
  omega

theorem isDigit_of_mem_zeroPadded {c : Char} (h : c ∈ (zeroPadded w n).toList) : c.isDigit = true := by
  rw [toList_zeroPadded, List.mem_append] at h
  cases h with
  | inl hzero =>
    rw [List.eq_of_mem_replicate hzero]
    rfl
  | inr hdigit => exact Nat.isDigit_of_mem_toDigits (by omega) (by omega) hdigit

theorem ofDigitChars_zeroPadded (w n : Nat) : Nat.ofDigitChars 10 (zeroPadded w n).toList 0 = n := by
  rw [toList_zeroPadded, Nat.ofDigitChars_append, Nat.ofDigitChars_replicate_zero, Nat.mul_zero,
    Nat.ofDigitChars_ten_toDigits]

theorem length_le_utf8ByteSize (s : String) : s.length ≤ s.utf8ByteSize := by
  obtain ⟨cs, rfl⟩ : ∃ cs, s = String.ofList cs := ⟨s.toList, by simp⟩
  induction cs with
  | nil => simp
  | cons c cs ih =>
    have hcons : String.ofList (c :: cs) = String.singleton c ++ String.ofList cs := by
      rw [String.singleton_eq_ofList, ← String.ofList_append, List.singleton_append]
    have hpos := c.utf8Size_pos
    rw [hcons, String.utf8ByteSize_append, String.utf8ByteSize_singleton, String.length_append,
      String.length_singleton]
    omega

end Text

namespace Calendar

open Text

/-- A moment whose text is read back: its year has four digits, and a leap second is the last of a minute. -/
structure Moment.Storable (m : Moment) : Prop where
  year : 0 ≤ m.date.year ∧ m.date.year ≤ 9999
  seconds : m.clock.seconds < 86400
  nanos : m.clock.nanos < 2000000000
  leap : 1000000000 ≤ m.clock.nanos → m.clock.seconds % 60 = 59

namespace Reader

theorem digitsExactly_append {cs : List Char} (h : ∀ c ∈ cs, c.isDigit = true) (n : Nat) (rest : List Char) :
    (digitsExactly cs.length n).run (cs ++ rest) = .ok (Nat.ofDigitChars 10 cs n, rest) := by
  induction cs generalizing n with
  | nil => rfl
  | cons c cs ih =>
    have hc : c.isDigit = true := h c (by simp)
    have hvalue : n * 10 + digitValue c = 10 * n + (c.toNat - '0'.toNat) := by rw [Nat.mul_comm]; rfl
    simp only [List.length_cons, digitsExactly, StateT.run_bind, List.cons_append]
    rw [Nat.ofDigitChars_cons, ← hvalue, ← ih (fun d hd => h d (by simp [hd]))]
    simp [hc]

theorem digitsExactly_zeroPadded {w n : Nat} (hw : 0 < w) (h : n < 10 ^ w) (rest : List Char) :
    (digitsExactly w 0).run ((zeroPadded w n).toList ++ rest) = .ok (n, rest) := by
  have hread := digitsExactly_append (fun c hc => isDigit_of_mem_zeroPadded (w := w) (n := n) hc) 0 rest
  rwa [length_zeroPadded hw h, ofDigitChars_zeroPadded] at hread

theorem run_bind_ok {α β : Type} {r : Reader α} {f : α → Reader β} {cs rest : List Char} {a : α}
    (h : r.run cs = .ok (a, rest)) : (r >>= f).run cs = (f a).run rest := by
  rw [StateT.run_bind, h]
  rfl

theorem literal_cons (c : Char) (rest : List Char) : (literal c).run (c :: rest) = .ok ((), rest) := by
  simp [literal]
  rfl

theorem foldl_digits (cs : List Char) (n : Nat) :
    cs.foldl (fun n c => n * 10 + digitValue c) n = Nat.ofDigitChars 10 cs n := by
  rw [Nat.ofDigitChars_eq_foldl]
  congr 1
  funext n c
  rw [Nat.mul_comm]
  rfl

theorem fraction_of_digits {cs : List Char} (hne : cs ≠ []) (hlength : cs.length ≤ 9)
    (hdigits : ∀ c ∈ cs, c.isDigit = true) (rest : List Char) :
    fraction.run ('.' :: (cs ++ 'Z' :: rest)) =
      .ok (Nat.ofDigitChars 10 cs 0 * 10 ^ (9 - cs.length), 'Z' :: rest) := by
  cases cs with
  | nil => exact absurd rfl hne
  | cons c cs =>
    have hc : c.isDigit = true := hdigits c (by simp)
    have htake : (c :: (cs ++ 'Z' :: rest)).takeWhile Char.isDigit = c :: cs := by
      rw [← List.cons_append, List.takeWhile_append_of_pos hdigits]
      simp [List.takeWhile]
    have hdrop : (c :: (cs ++ 'Z' :: rest)).dropWhile Char.isDigit = 'Z' :: rest := by
      rw [← List.cons_append, List.dropWhile_append_of_pos hdigits]
      simp [List.dropWhile]
    have hnine : (c :: cs).take 9 = c :: cs := List.take_of_length_le hlength
    simp only [fraction, StateT.run_bind, StateT.run_get, List.cons_append, pure_bind, htake, hdrop, hnine,
      foldl_digits]
    rw [if_pos hc]
    rfl

theorem fraction_fractionText (t : Clock) (rest : List Char) :
    fraction.run ((fractionText t).toList ++ 'Z' :: rest) = .ok (t.fraction, 'Z' :: rest) := by
  have hlt : t.fraction < 1000000000 := Nat.mod_lt _ (by omega)
  -- a point and so many digits
  have hdigits : ∀ {w n : Nat}, 0 < w → w ≤ 9 → n < 10 ^ w → n * 10 ^ (9 - w) = t.fraction →
      fraction.run (("." ++ zeroPadded w n).toList ++ 'Z' :: rest) = .ok (t.fraction, 'Z' :: rest) := by
    intro w n hw hle hn hvalue
    have hlength := length_zeroPadded hw hn
    have hne : (zeroPadded w n).toList ≠ [] := by
      intro hnil
      rw [hnil] at hlength
      exact absurd hlength (by simp; omega)
    have hread := fraction_of_digits hne (by omega) (fun c hc => isDigit_of_mem_zeroPadded hc) rest
    rw [ofDigitChars_zeroPadded, hlength, hvalue] at hread
    simpa using hread
  unfold fractionText
  simp only
  split
  · rename_i hzero
    rw [hzero]
    rfl
  · split
    · exact hdigits (by omega) (by omega) (by omega) (by omega)
    · split
      · exact hdigits (by omega) (by omega) (by omega) (by omega)
      · exact hdigits (by omega) (by omega) (by omega) (by omega)

end Reader

namespace Moment.Storable

variable {m : Moment} (h : m.Storable)

include h

theorem ofReading?_clock :
    Clock.ofReading? m.clock.hour m.clock.minute m.clock.second m.clock.fraction = some m.clock := by
  obtain ⟨-, hseconds, hnanos, hleap⟩ := h
  have hparts : m.clock.hour < 24 ∧ m.clock.minute < 60 ∧ m.clock.second ≤ 60 ∧ m.clock.fraction < 1000000000 := by
    simp only [Clock.hour, Clock.minute, Clock.second, Clock.fraction]
    omega
  have hsecond : m.clock.second = 60 ↔ 1000000000 ≤ m.clock.nanos := by
    simp only [Clock.second]
    omega
  rw [Clock.ofReading?, if_pos hparts]
  split
  · have hclock : m.clock = ⟨m.clock.seconds, m.clock.nanos⟩ := rfl
    rw [hclock]
    simp only [Option.some.injEq, Clock.mk.injEq, Clock.hour, Clock.minute, Clock.fraction]
    omega
  · have hclock : m.clock = ⟨m.clock.seconds, m.clock.nanos⟩ := rfl
    rw [hclock]
    simp only [Option.some.injEq, Clock.mk.injEq, Clock.hour, Clock.minute, Clock.second, Clock.fraction]
    omega

theorem toList_utcText :
    (utcText m).toList = (zeroPadded 4 m.date.civil.year.toNat).toList ++ '-' ::
      ((zeroPadded 2 m.date.civil.month).toList ++ '-' :: ((zeroPadded 2 m.date.civil.day).toList ++ 'T' ::
        ((zeroPadded 2 m.clock.hour).toList ++ ':' :: ((zeroPadded 2 m.clock.minute).toList ++ ':' ::
          ((zeroPadded 2 m.clock.second).toList ++ ((fractionText m.clock).toList ++ ['Z'])))))) := by
  have hyear : 0 ≤ m.date.civil.year ∧ m.date.civil.year ≤ 9999 := h.year
  have htext : ∀ s : String, toString s = s := fun _ => rfl
  simp [utcText, momentText, dateText, clockText, yearText, hyear, htext]

theorem civil_lt : m.date.civil.year.toNat < 10 ^ 4 ∧ m.date.civil.month < 10 ^ 2 ∧ m.date.civil.day < 10 ^ 2 := by
  have hyear := h.year
  obtain ⟨-, hmonth, -, hday⟩ := m.date.civil_valid
  have hdays := Date.daysInMonth_le m.date.civil.year m.date.civil.month
  simp only [Date.year] at hyear
  omega

theorem ofCivil?_date :
    Date.ofCivil? (m.date.civil.year.toNat : Int) m.date.civil.month m.date.civil.day = some m.date := by
  obtain ⟨hyear0, hyear1⟩ := h.year
  have hyear : (m.date.civil.year.toNat : Int) = m.date.civil.year := Int.toNat_of_nonneg hyear0
  rw [hyear]
  exact Date.ofCivil?_civil (Int.le_trans (by decide) hyear0) (Int.le_trans hyear1 (by decide))

theorem clock_lt : m.clock.hour < 10 ^ 2 ∧ m.clock.minute < 10 ^ 2 ∧ m.clock.second < 10 ^ 2 := by
  obtain ⟨-, hseconds, hnanos, -⟩ := h
  simp only [Clock.hour, Clock.minute, Clock.second]
  omega

theorem run_stamp : Reader.stamp.run (utcText m).toList = .ok ((m, 0), []) := by
  obtain ⟨hyear, hmonth, hday⟩ := h.civil_lt
  obtain ⟨hhour, hminute, hsecond⟩ := h.clock_lt
  have hdate := h.ofCivil?_date
  have hclock := h.ofReading?_clock
  have hfraction := Reader.fraction_fractionText m.clock []
  rw [h.toList_utcText, Reader.stamp, Reader.run_bind_ok (Reader.digitsExactly_zeroPadded (by omega) hyear _),
    Reader.run_bind_ok (Reader.literal_cons _ _),
    Reader.run_bind_ok (Reader.digitsExactly_zeroPadded (by omega) hmonth _),
    Reader.run_bind_ok (Reader.literal_cons _ _),
    Reader.run_bind_ok (Reader.digitsExactly_zeroPadded (by omega) hday _), hdate,
    Reader.run_bind_ok (show (Reader.orOutOfRange (some m.date)).run _ = .ok (m.date, _) from rfl),
    Reader.run_bind_ok (StateT.run_get _)]
  simp only
  rw [Reader.run_bind_ok (StateT.run_set _ _),
    Reader.run_bind_ok (Reader.digitsExactly_zeroPadded (by omega) hhour _),
    Reader.run_bind_ok (Reader.literal_cons _ _),
    Reader.run_bind_ok (Reader.digitsExactly_zeroPadded (by omega) hminute _),
    Reader.run_bind_ok (Reader.literal_cons _ _),
    Reader.run_bind_ok (Reader.digitsExactly_zeroPadded (by omega) hsecond _),
    Reader.run_bind_ok hfraction, hclock]
  rfl

theorem toUtc_zero : toUtc m 0 = .ok m := by
  obtain ⟨hyear0, hyear1⟩ := h.year
  have hseconds := h.seconds
  have hday : ((m.clock.seconds : Int) + -0) / 86400 = 0 := by omega
  have hrest : (((m.clock.seconds : Int) + -0) % 86400).toNat = m.clock.seconds := by omega
  have hrange : Date.firstYear ≤ m.date.year ∧ m.date.year ≤ Date.lastYear :=
    ⟨Int.le_trans (by decide) hyear0, Int.le_trans hyear1 (by decide)⟩
  have hdate : m.date.addDays? 0 = some m.date := by
    simp only [Date.addDays?, Int.add_zero]
    exact if_pos hrange
  rw [toUtc, if_pos (by decide), Moment.addSeconds?, hday, hrest, hdate]
  rfl

theorem stampLength_le : Reader.stampLength ≤ (utcText m).utf8ByteSize := by
  obtain ⟨hyear, hmonth, hday⟩ := h.civil_lt
  obtain ⟨hhour, hminute, hsecond⟩ := h.clock_lt
  have hbytes := length_le_utf8ByteSize (utcText m)
  rw [← String.length_toList, h.toList_utcText] at hbytes
  simp only [List.length_append, List.length_cons, length_zeroPadded (show 0 < 4 by omega) hyear,
    length_zeroPadded (show 0 < 2 by omega) hmonth, length_zeroPadded (show 0 < 2 by omega) hday,
    length_zeroPadded (show 0 < 2 by omega) hhour, length_zeroPadded (show 0 < 2 by omega) hminute,
    length_zeroPadded (show 0 < 2 by omega) hsecond] at hbytes
  rw [Reader.stampLength]
  omega

theorem readStamp_utcText : readStamp (utcText m) = .ok m := by
  have hlong : ¬ (utcText m).utf8ByteSize < Reader.stampLength := Nat.not_lt.mpr h.stampLength_le
  rw [readStamp, if_neg hlong, Reader.on, h.run_stamp]
  exact h.toUtc_zero

end Moment.Storable

end Calendar

end PortfolioReports
