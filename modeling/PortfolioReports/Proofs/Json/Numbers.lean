import Mathlib.Tactic.IntervalCases
import PortfolioReports.Json.Parser
import PortfolioReports.Proofs.Numeric.Rounding
import PortfolioReports.Proofs.Numeric.Shortest

namespace PortfolioReports.Json

open Numeric

def Delimited (rest : List Char) : Prop := ∀ c ∈ rest.head?, c = ',' ∨ c = ']' ∨ c = '\x7d' ∨ isSpace c = true

def AllDigits (cs : List Char) : Prop := ∀ c ∈ cs, c.isDigit = true

structure NumberText where
  whole : List Char
  fraction? : Option (List Char)
  exponent? : Option (Bool × List Char)

namespace NumberText

def fractionChars (t : NumberText) : List Char :=
  match t.fraction? with
  | some f => '.' :: f
  | none => []

def exponentChars (t : NumberText) : List Char :=
  match t.exponent? with
  | some (isNegative, ds) => 'e' :: (if isNegative then '-' else '+') :: ds
  | none => []

def chars (t : NumberText) : List Char := t.whole ++ (t.fractionChars ++ t.exponentChars)

def exponentValue? (t : NumberText) : Option Int :=
  t.exponent?.map fun x =>
    (if x.1 then -1 else 1) * (((x.2.map digitOf).foldl (fun n d => n * 10 + d) 0 : Nat) : Int)

structure IsWellFormed (t : NumberText) : Prop where
  whole : AllDigits t.whole
  lead : t.whole = ['0'] ∨ ∃ c cs, t.whole = c :: cs ∧ c ≠ '0'
  fraction : ∀ f ∈ t.fraction?, f ≠ [] ∧ AllDigits f
  exponent : ∀ x ∈ t.exponent?, x.2 ≠ [] ∧ AllDigits x.2

end NumberText

section

variable {cs ds rest : List Char}

theorem takeWhile_digits (h : AllDigits ds) (hrest : ∀ c ∈ rest.head?, c.isDigit = false) :
    (ds ++ rest).takeWhile Char.isDigit = ds := by
  rw [List.takeWhile_append_of_pos h]
  cases rest with
  | nil => simp
  | cons c rest => simp [hrest c rfl]

theorem afterDigits_append (h : AllDigits ds) (hrest : ∀ c ∈ rest.head?, c.isDigit = false) :
    afterDigits (ds ++ rest) = rest := by
  rw [afterDigits, List.dropWhile_append_of_pos h]
  cases rest with
  | nil => simp
  | cons c rest => simp [hrest c rfl]

theorem digitsOf_append (h : AllDigits ds) (hrest : ∀ c ∈ rest.head?, c.isDigit = false) :
    digitsOf (ds ++ rest) = ds.map digitOf := by
  rw [digitsOf, takeWhile_digits h hrest]

theorem scanFraction_fractionChars {t : NumberText} (h : t.IsWellFormed)
    (hrest : ∀ c ∈ rest.head?, c.isDigit = false ∧ c ≠ '.') (mode : Mode) :
    scanFraction mode (t.fractionChars ++ rest) = .ok (t.fraction?.map (·.map digitOf), rest) := by
  unfold NumberText.fractionChars
  cases hf : t.fraction? with
  | none =>
    cases rest with
    | nil => rfl
    | cons c rest =>
      have hc := (hrest c rfl).2
      simp only [List.nil_append, scanFraction]
      split
      · rename_i heq
        cases heq
        exact absurd rfl hc
      · rfl
  | some f =>
    obtain ⟨hne, hdigits⟩ := h.fraction f hf
    have hnot : ∀ c ∈ rest.head?, c.isDigit = false := fun c hc => (hrest c hc).1
    cases f with
    | nil => exact absurd rfl hne
    | cons c f =>
      have hc := hdigits c List.mem_cons_self
      simp only [List.cons_append, scanFraction, hc, if_true]
      rw [← List.cons_append, digitsOf_append hdigits hnot, afterDigits_append hdigits hnot]
      rfl

theorem scanExponent_signed (mode : Mode) (isNegative : Bool) {c : Char} (hc : c.isDigit = true) (cs : List Char) :
    scanExponent mode ('e' :: (if isNegative then '-' else '+') :: c :: cs) =
      .ok (some ⟨(if isNegative then -1 else 1) *
        (((digitsOf (c :: cs)).foldl (fun n d => n * 10 + d) 0 : Nat) : Int), afterExcess? 0 (c :: cs)⟩,
        afterDigits (c :: cs)) := by
  cases isNegative <;> simp [scanExponent, hc]

theorem scanExponent_exponentChars {t : NumberText} (h : t.IsWellFormed)
    (hrest : ∀ c ∈ rest.head?, c.isDigit = false ∧ c ≠ 'e' ∧ c ≠ 'E') (mode : Mode) :
    ∃ x?, scanExponent mode (t.exponentChars ++ rest) = .ok (x?, rest) ∧
      x?.map Exponent.value = t.exponentValue? := by
  unfold NumberText.exponentChars NumberText.exponentValue?
  cases hx : t.exponent? with
  | none =>
    refine ⟨none, ?_, rfl⟩
    cases rest with
    | nil => rfl
    | cons c rest =>
      obtain ⟨-, hsmall, hlarge⟩ := hrest c rfl
      simp only [List.nil_append, scanExponent]
      split
      · rename_i heq
        cases heq
        exact absurd rfl hsmall
      · rename_i heq
        cases heq
        exact absurd rfl hlarge
      · rfl
  | some x =>
    obtain ⟨isNegative, ds⟩ := x
    obtain ⟨hne, hdigits⟩ := h.exponent _ hx
    have hnot : ∀ c ∈ rest.head?, c.isDigit = false := fun c hc => (hrest c hc).1
    cases ds with
    | nil => exact absurd rfl hne
    | cons c ds =>
      have hc := hdigits c List.mem_cons_self
      have hscan := scanExponent_signed mode isNegative hc (ds ++ rest)
      rw [← List.cons_append, digitsOf_append hdigits hnot, afterDigits_append hdigits hnot] at hscan
      exact ⟨_, hscan, rfl⟩

theorem isDigit_ne {c d : Char} (hc : c.isDigit = true) (hd : d.isDigit = false) : c ≠ d := by
  rintro rfl
  rw [hc] at hd
  cases hd

def scanAfterWhole (mode : Mode) (isNegative : Bool) (whole : List Nat) (cs : List Char) :
    Except ReadError (Json × List Char) := do
  let (frac, cs) ← scanFraction mode cs
  let (exp, cs) ← scanExponent mode cs
  match mode, numberOf isNegative whole frac (exp.map Exponent.value) with
  | .read, unreadable => faultBefore .outOfRange ((exp.bind Exponent.excess?).getD cs)
  | _, j => pure (j, cs)

theorem scanAfterWhole_eq {frac : Option (List Nat)} {x? : Option Exponent} {cs tail : List Char}
    (hfraction : scanFraction .skip tail = .ok (frac, cs)) (hexponent : scanExponent .skip cs = .ok (x?, rest))
    (isNegative : Bool) (whole : List Nat) :
    scanAfterWhole .skip isNegative whole tail =
      .ok (numberOf isNegative whole frac (x?.map Exponent.value), rest) := by
  simp only [scanAfterWhole, hfraction, hexponent, bind, Except.bind]
  rfl

theorem scanNumber_chars {t : NumberText} (h : t.IsWellFormed)
    (hrest : ∀ c ∈ rest.head?, c.isDigit = false ∧ c ≠ '.' ∧ c ≠ 'e' ∧ c ≠ 'E') (isNegative : Bool) :
    scanNumber .skip isNegative (t.chars ++ rest) =
      .ok (numberOf isNegative (t.whole.map digitOf) (t.fraction?.map (·.map digitOf)) t.exponentValue?, rest) := by
  have hexponent : ∀ c ∈ (t.exponentChars ++ rest).head?, c.isDigit = false ∧ c ≠ '.' := by
    unfold NumberText.exponentChars
    cases t.exponent? with
    | none => exact fun c hc => ⟨(hrest c hc).1, (hrest c hc).2.1⟩
    | some x => simp
  have hfraction : ∀ c ∈ (t.fractionChars ++ (t.exponentChars ++ rest)).head?, c.isDigit = false := by
    unfold NumberText.fractionChars
    cases t.fraction? with
    | none => exact fun c hc => (hexponent c hc).1
    | some f => simp
  obtain ⟨x?, hx, hvalue⟩ := scanExponent_exponentChars h (fun c hc => ⟨(hrest c hc).1, (hrest c hc).2.2⟩) .skip
  have hlater := scanAfterWhole_eq (scanFraction_fractionChars h hexponent .skip) hx isNegative
  rw [← hvalue, NumberText.chars, List.append_assoc, List.append_assoc]
  generalize t.fractionChars ++ (t.exponentChars ++ rest) = tail at *
  rcases h.lead with hzero | ⟨c, cs, hcons, hc⟩
  · rw [hzero]
    refine Eq.trans ?_ (hlater [0])
    cases tail with
    | nil => rfl
    | cons c tail =>
      have hdigit : c.isDigit = false := hfraction c rfl
      simp only [scanNumber, List.singleton_append, hdigit]
      rfl
  · have hdigit : c.isDigit = true := h.whole c (by rw [hcons]; exact List.mem_cons_self)
    have hds := digitsOf_append h.whole hfraction
    have hafter := afterDigits_append h.whole hfraction
    have hrest' : afterDigits (cs ++ tail) = tail := by
      rw [hcons, List.cons_append, afterDigits, List.dropWhile_cons_of_pos hdigit] at hafter
      exact hafter
    refine Eq.trans ?_ (hlater (t.whole.map digitOf))
    rw [← hds, hcons, List.cons_append]
    unfold scanNumber
    split
    · cases ‹_ :: _ = []›
    · rename_i heq
      cases heq
      exact absurd rfl hc
    · rename_i heq
      cases heq
      simp only [hdigit, if_true, hrest']
      rfl

end

theorem allDigits_toDigits (n : Nat) : AllDigits (Nat.toDigits 10 n) :=
  fun _ hc => Nat.isDigit_of_mem_toDigits (by omega) (by omega) hc

theorem toList_toString_nat (n : Nat) : (toString n).toList = Nat.toDigits 10 n := String.toList_ofList

theorem toDigits_lead {n : Nat} (hn : 0 < n) : ∃ c cs, Nat.toDigits 10 n = c :: cs ∧ c ≠ '0' := by
  induction n using Nat.strongRecOn with
  | ind n ih =>
    by_cases hsmall : n < 10
    · refine ⟨n.digitChar, [], Nat.toDigits_of_lt_base hsmall, ?_⟩
      interval_cases n <;> decide
    · obtain ⟨c, cs, hcons, hc⟩ := ih (n / 10) (by omega) (by omega)
      exact ⟨c, cs ++ [(n % 10).digitChar], by rw [Nat.toDigits_of_base_le (by omega) (by omega), hcons]; rfl, hc⟩

theorem foldl_digits (n : Nat) :
    ((Nat.toDigits 10 n).map digitOf).foldl (fun n d => n * 10 + d) 0 = n := by
  have h := Nat.ofDigitChars_ten_toDigits (n := n)
  rw [Nat.ofDigitChars_eq_foldl] at h
  rw [List.foldl_map]
  simpa [digitOf, Nat.mul_comm] using h

theorem toList_toString_int (n : Int) :
    (toString n).toList = (if n < 0 then ['-'] else []) ++ Nat.toDigits 10 n.natAbs := by
  cases n with
  | ofNat n =>
    rw [if_neg (by simp)]
    exact toList_toString_nat n
  | negSucc n =>
    rw [if_pos (Int.negSucc_lt_zero n)]
    have : toString (Int.negSucc n) = "-" ++ toString (n + 1) := by rfl
    rw [this, String.toList_append, toList_toString_nat]
    rfl

theorem floatOfParts_go_of_neg (fuel : ℕ) (f : Float) {e : ℤ} (he : e < 0) :
    ∃ y, floatOfParts.go fuel f e = some y := by
  have hneg : ¬0 ≤ e := by omega
  induction fuel generalizing f e with
  | zero => exact ⟨f, rfl⟩
  | succ fuel ih =>
    unfold floatOfParts.go
    simp only [if_neg hneg]
    split
    · exact ⟨_, rfl⟩
    · split
      · exact ⟨_, rfl⟩
      · exact ih _ (by omega) (by omega)

theorem floatOfParts_isSome {sig : ℕ} {e : ℤ} (hsig : sig < 2 ^ 64)
    (h : (sig * 10 ^ e : ℚ) ≤ safe) : ∃ y, floatOfParts sig e = some y := by
  cases lt_or_ge e 0 with
  | inl hneg => exact floatOfParts_go_of_neg 4 _ hneg
  | inr hnonneg =>
    obtain ⟨n, rfl⟩ := Int.eq_ofNat_of_zero_le hnonneg
    rw [zpow_natCast] at h
    unfold floatOfParts floatOfParts.go
    simp only [Int.natAbs_natCast, hnonneg, if_true]
    by_cases hn : n ≤ 308
    · have hfinite : (Float.ofNat sig * Float.ofScientific 1 false n).isInf = false := by
        cases Nat.eq_zero_or_pos sig with
        | inl hzero => rw [hzero]; exact zero_mul_isInf hn
        | inr hpos => exact product_isInf hpos hsig hn h
      simp [hn, hfinite]
    · -- Beyond the table of powers only zero is small enough.
      have hzero : sig = 0 := by
        by_contra hne
        have hone : (1 : ℚ) ≤ sig := by exact_mod_cast Nat.one_le_iff_ne_zero.mpr hne
        have hlarge : (10 ^ 309 : ℚ) ≤ 10 ^ n := pow_le_pow_right₀ (by norm_num) (by omega)
        have hproduct : (10 ^ n : ℚ) ≤ sig * 10 ^ n := le_mul_of_one_le_left (by positivity) hone
        exact absurd ((hlarge.trans hproduct).trans h) (not_le.mpr safe_lt)
      rw [if_neg hn, hzero]
      exact ⟨Float.ofNat 0, by rfl⟩

end PortfolioReports.Json
