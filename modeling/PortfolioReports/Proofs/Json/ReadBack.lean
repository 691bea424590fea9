import PortfolioReports.Json.Record
import PortfolioReports.Proofs.Json.Decimals
import PortfolioReports.Proofs.Json.Depth

namespace PortfolioReports.Json

open Numeric

theorem escapeChar_of_plain {c : Char} (hcontrol : ¬c.toNat < 0x20) (hquote : c ≠ '"') (hslash : c ≠ '\\') :
    escapeChar c = [c] := by
  have hnot : ∀ d : Char, d.toNat < 0x20 → c ≠ d := by
    rintro d hd rfl
    exact hcontrol hd
  simp only [escapeChar, hquote, hslash, hcontrol, hnot '\x08' (by decide), hnot '\t' (by decide),
    hnot '\n' (by decide), hnot '\x0c' (by decide), hnot '\r' (by decide), if_false]

theorem escapeChar_ne_nil (c : Char) : escapeChar c ≠ [] := by
  unfold escapeChar
  repeat' split
  all_goals exact List.cons_ne_nil _ _

theorem scanText_escapeChar (mode : Mode) (u : Char) (fuel acc : List Char) (whole : Bool) (c : Char)
    (rest : List Char) :
    scanText mode (u :: fuel) acc whole (escapeChar c ++ rest) = scanText mode fuel (c :: acc) whole rest := by
  by_cases hcontrol : c.toNat < 0x20
  · have hc : c = Char.ofNat c.toNat := by simp
    generalize c.toNat = n at hcontrol hc
    subst hc
    -- Control characters have escapes of two shapes, so each of the 32 is read by itself.
    interval_cases n <;> rfl
  · by_cases hquote : c = '"'
    · subst hquote
      rfl
    · by_cases hslash : c = '\\'
      · subst hslash
        rfl
      · rw [escapeChar_of_plain hcontrol hquote hslash, List.singleton_append]
        simp [scanText, hcontrol, hslash]

theorem scanText_escaped (mode : Mode) (cs fuel acc rest : List Char)
    (hfuel : (cs.flatMap escapeChar).length < fuel.length) :
    scanText mode fuel acc true (cs.flatMap escapeChar ++ '"' :: rest) =
      .ok (some (String.ofList (acc.reverse ++ cs)), rest) := by
  induction cs generalizing fuel acc with
  | nil =>
    cases fuel with
    | nil => cases hfuel
    | cons u fuel => simp [scanText]
  | cons c cs ih =>
    have hpos := List.length_pos_iff.mpr (escapeChar_ne_nil c)
    rw [List.flatMap_cons, List.length_append] at hfuel
    cases fuel with
    | nil => cases hfuel
    | cons u fuel =>
      rw [List.length_cons] at hfuel
      rw [List.flatMap_cons, List.append_assoc, scanText_escapeChar, ih fuel (c :: acc) (by omega)]
      simp

theorem scanString_quote (mode : Mode) (s : String) (rest : List Char) :
    scanString mode (s.toList.flatMap escapeChar ++ '"' :: rest) = .ok (some s, rest) := by
  rw [scanString, scanText_escaped mode s.toList _ [] rest (by simp)]
  simp

theorem toList_quote (s : String) : (quote s).toList = '"' :: (s.toList.flatMap escapeChar ++ ['"']) := by
  simp [quote]

def wholeText (n : ℕ) : NumberText := ⟨Nat.toDigits 10 n, none, none⟩

mutual

def reread : Json → Json
  | int n => (wholeText n.natAbs).read (decide (n < 0))
  | float x => if x.isFinite then float (rereadFloat x) else null
  | list items => list (rereadItems items)
  | object fields => object (rereadFields fields)
  | unreadable => null
  | j => j

def rereadItems : List Json → List Json
  | [] => []
  | j :: js => j.reread :: rereadItems js

def rereadFields : List (String × Json) → List (String × Json)
  | [] => []
  | (k, j) :: fs => (k, j.reread) :: rereadFields fs

end

theorem rereadItems_eq (items : List Json) : rereadItems items = items.map reread := by
  induction items with
  | nil => rfl
  | cons j js ih => rw [rereadItems, ih, List.map_cons]

theorem rereadFields_eq (fields : List (String × Json)) :
    rereadFields fields = fields.map fun f => (f.1, f.2.reread) := by
  induction fields with
  | nil => rfl
  | cons f fs ih => rw [rereadFields, ih, List.map_cons]

theorem wholeText_isWellFormed (n : ℕ) : (wholeText n).IsWellFormed := by
  refine ⟨allDigits_toDigits n, ?_, nofun, nofun⟩
  cases n with
  | zero => exact .inl rfl
  | succ n => exact .inr (toDigits_lead n.succ_pos)

theorem reread_int {n : ℤ} (hlow : -2 ^ 63 ≤ n) (hhigh : n < 2 ^ 64) : (int n).reread = int n := by
  have hdigits : ((Nat.toDigits 10 n.natAbs).map digitOf).foldl (fun n d => n * 10 + d) 0 = n.natAbs := foldl_digits _
  have hsize : UInt64.size = 2 ^ 64 := rfl
  simp only [reread, NumberText.read, wholeText, Option.map_none, NumberText.exponentValue?, numberOf, hdigits, hsize,
    decide_eq_true_eq]
  rw [if_pos (by omega)]
  split
  · rw [if_neg (by omega)]
    congr 1
    omega
  · congr 1
    omega

structure BeginsScalar (c : Char) : Prop where
  space : isSpace c = false
  list : c ≠ '['
  listEnd : c ≠ ']'
  object : c ≠ '\x7b'

theorem beginsScalar_of_isDigit {c : Char} (h : c.isDigit = true) : BeginsScalar c := by
  have hne : ∀ d : Char, d.isDigit = false → c ≠ d := fun d hd => isDigit_ne h hd
  refine ⟨?_, hne _ rfl, hne _ rfl, hne _ rfl⟩
  simp [isSpace, hne ' ' rfl, hne '\n' rfl, hne '\t' rfl, hne '\r' rfl]

theorem NumberText.IsWellFormed.head {t : NumberText} (h : t.IsWellFormed) :
    ∃ c cs, t.chars = c :: cs ∧ c.isDigit = true := by
  obtain ⟨c, cs, hcons⟩ : ∃ c cs, t.whole = c :: cs := by
    rcases h.lead with hzero | ⟨c, cs, hcons, -⟩
    · exact ⟨_, _, hzero⟩
    · exact ⟨c, cs, hcons⟩
  exact ⟨c, _, by rw [NumberText.chars, hcons]; rfl, h.whole c (by rw [hcons]; exact List.mem_cons_self)⟩

theorem Delimited.not_number {rest : List Char} (h : Delimited rest) :
    ∀ c ∈ rest.head?, c.isDigit = false ∧ c ≠ '.' ∧ c ≠ 'e' ∧ c ≠ 'E' := by
  intro c hc
  rcases h c hc with rfl | rfl | rfl | hspace
  · decide
  · decide
  · decide
  · simp only [isSpace, Bool.or_eq_true, decide_eq_true_eq] at hspace
    rcases hspace with ((rfl | rfl) | rfl) | rfl <;> decide

theorem scanScalar_digit {c : Char} (h : c.isDigit = true) (mode : Mode) (cs : List Char) :
    scanScalar mode (c :: cs) = scanNumber mode false (c :: cs) := by
  have hne : ∀ d : Char, d.isDigit = false → c ≠ d := fun d hd => isDigit_ne h hd
  simp [scanScalar, hne 'n' rfl, hne 't' rfl, hne 'f' rfl, hne '"' rfl, hne '-' rfl, h]

theorem scanScalar_number {t : NumberText} (h : t.IsWellFormed) {rest : List Char} (hrest : Delimited rest)
    (isNegative : Bool) :
    scanScalar .skip ((if isNegative then ['-'] else []) ++ t.chars ++ rest) = .ok (t.read isNegative, rest) := by
  have hnumber := scanNumber_chars h hrest.not_number isNegative
  cases isNegative with
  | true => exact hnumber
  | false =>
    obtain ⟨c, cs, hcons, hc⟩ := h.head
    rw [hcons] at hnumber ⊢
    exact (scanScalar_digit hc .skip (cs ++ rest)).trans hnumber

theorem print_int (n : ℤ) :
    (int n).print.toList = (if decide (n < 0) then ['-'] else []) ++ (wholeText n.natAbs).chars := by
  have hchars : (wholeText n.natAbs).chars = Nat.toDigits 10 n.natAbs := List.append_nil _
  rw [print, toList_toString_int, hchars]
  simp

theorem print_float {x : Float} (h : x.isFinite = true) :
    (float x).print.toList = (if (floatText x).1 then ['-'] else []) ++ (floatText x).2.chars := by
  rw [print, if_pos h, toList_render h]

theorem scanScalar_print {j : Json} (h : j.isScalar = true) {rest : List Char} (hrest : Delimited rest) :
    scanScalar .skip (j.print.toList ++ rest) = .ok (j.reread, rest) := by
  cases j with
  | null => rfl
  | unreadable => rfl
  | bool b => cases b <;> rfl
  | int n =>
    rw [print_int]
    exact scanScalar_number (wholeText_isWellFormed _) hrest _
  | float x =>
    cases hx : x.isFinite with
    | true =>
      rw [print_float hx, reread, if_pos hx, ← read_eq_rereadFloat hx]
      exact scanScalar_number (floatText_isWellFormed x) hrest _
    | false =>
      simp only [print, reread, hx, Bool.false_eq_true, if_false]
      rfl
  | text s =>
    rw [print, toList_quote]
    simp only [List.cons_append, List.append_assoc, List.nil_append, scanScalar, scanString_quote]
    rfl
  | list items => cases h
  | object fields => cases h

theorem scalar_head {j : Json} (h : j.isScalar = true) : ∃ c cs, j.print.toList = c :: cs ∧ BeginsScalar c := by
  have hnumber : ∀ (isNegative : Bool) {t : NumberText}, t.IsWellFormed →
      ∃ c cs, (if isNegative then ['-'] else []) ++ t.chars = c :: cs ∧ BeginsScalar c := by
    intro isNegative t ht
    obtain ⟨c, cs, hcons, hc⟩ := ht.head
    cases isNegative with
    | true => exact ⟨'-', t.chars, rfl, by constructor <;> decide⟩
    | false => exact ⟨c, cs, hcons, beginsScalar_of_isDigit hc⟩
  cases j with
  | null => exact ⟨'n', _, rfl, by constructor <;> decide⟩
  | unreadable => exact ⟨'n', _, rfl, by constructor <;> decide⟩
  | bool b => cases b <;> exact ⟨_, _, rfl, by constructor <;> decide⟩
  | int n =>
    rw [print_int]
    exact hnumber _ (wholeText_isWellFormed _)
  | float x =>
    cases hx : x.isFinite with
    | true =>
      rw [print_float hx]
      exact hnumber _ (floatText_isWellFormed x)
    | false =>
      simp only [print, hx, Bool.false_eq_true, if_false]
      exact ⟨'n', _, rfl, by constructor <;> decide⟩
  | text s =>
    rw [print, toList_quote]
    exact ⟨'"', _, rfl, by constructor <;> decide⟩
  | list items => cases h
  | object fields => cases h

/-! ## Lists and objects

Between the parts of a list or an object may stand blanks: none where the value is on one line, a new line and an
indentation where it is not.
-/

def IsBlank (gap : List Char) : Prop := ∀ c ∈ gap, isSpace c = true

theorem skipSpace_append {gap : List Char} (h : IsBlank gap) (cs : List Char) : skipSpace (gap ++ cs) = skipSpace cs :=
  List.dropWhile_append_of_pos h

theorem skipSpace_of_head {c : Char} (h : isSpace c = false) (cs : List Char) : skipSpace (c :: cs) = c :: cs :=
  List.dropWhile_cons_of_neg (by simp [h])

/-- The text is read as a value to its end, and what stands behind it is left. Two units of fuel for each character
are enough. -/
structure ReadsAs (text : List Char) (j : Json) : Prop where
  begins : ∃ c cs, text = c :: cs ∧ isSpace c = false ∧ c ≠ ']'
  scan : ∀ (fuel : ℕ) (rest : List Char), 2 * text.length ≤ fuel → Delimited rest →
    scanValue fuel (text ++ rest) = .ok (j, rest)

theorem scanValue_scalar {j : Json} (h : j.isScalar = true) (fuel : ℕ) {rest : List Char} (hrest : Delimited rest) :
    scanValue (fuel + 1) (j.print.toList ++ rest) = .ok (j.reread, rest) := by
  have hscan := scanScalar_print h hrest
  obtain ⟨c, cs, hcons, hc⟩ := scalar_head h
  rw [hcons, List.cons_append] at hscan ⊢
  rw [scanValue, skipSpace_of_head hc.space]
  split
  · rename_i heq
    cases heq
    exact absurd rfl hc.list
  · rename_i heq
    cases heq
    exact absurd rfl hc.object
  · exact hscan

def gapTail (gap : List Char) (texts : List (List Char)) : List Char := texts.flatMap fun t => ',' :: (gap ++ t)

def fieldChars (sep : List Char) (k : String) (text : List Char) : List Char :=
  '"' :: (k.toList.flatMap escapeChar ++ '"' :: ':' :: (sep ++ text))

section Gaps

variable {gap close sep text first : List Char} {texts : List (List Char)} {j : Json} {js : List Json}

theorem delimited_gapTail (gap : List Char) (texts : List (List Char)) (hclose : IsBlank close) {c : Char} (hc : c = ']' ∨ c = '\x7d') (rest : List Char) :
    Delimited (gapTail gap texts ++ (close ++ c :: rest)) := by
  cases texts with
  | nil =>
    cases close with
    | nil =>
      rintro d ⟨rfl⟩
      exact .inr (hc.imp_right .inl)
    | cons b close =>
      rintro d ⟨rfl⟩
      exact .inr (.inr (.inr (hclose b List.mem_cons_self)))
  | cons t texts =>
    rintro d ⟨rfl⟩
    exact .inl rfl

namespace ReadsAs

theorem length_pos (h : ReadsAs text j) : 0 < text.length := by
  obtain ⟨c, cs, rfl, -⟩ := h.begins
  exact Nat.succ_pos _

theorem scan_gap (h : ReadsAs text j) (hgap : IsBlank gap) (fuel : ℕ) {rest : List Char} (hfuel : 2 * text.length ≤ fuel)
    (hrest : Delimited rest) : scanValue fuel (gap ++ (text ++ rest)) = .ok (j, rest) := by
  have hpos := h.length_pos
  obtain ⟨fuel, rfl⟩ : ∃ n, fuel = n + 1 := ⟨fuel - 1, by omega⟩
  have hscan := h.scan (fuel + 1) rest hfuel hrest
  rw [scanValue] at hscan
  rw [scanValue, skipSpace_append hgap]
  exact hscan

theorem nextItem_first (h : ReadsAs text j) (hgap : IsBlank gap) (rest : List Char) :
    nextItem .skip true (gap ++ (text ++ rest)) = .ok (.more (text ++ rest)) := by
  obtain ⟨c, cs, rfl, hspace, hend⟩ := h.begins
  rw [nextItem, skipSpace_append hgap, List.cons_append, skipSpace_of_head hspace]
  split
  · cases ‹_ :: _ = []›
  · rename_i heq
    cases heq
    exact absurd rfl hend
  · rename_i heq
    cases heq
    rfl

theorem nextItem_comma (h : ReadsAs text j) (hgap : IsBlank gap) (rest : List Char) :
    nextItem .skip false (',' :: (gap ++ (text ++ rest))) = .ok (.more (text ++ rest)) := by
  have hskip : skipSpace (',' :: (gap ++ (text ++ rest))) = ',' :: (gap ++ (text ++ rest)) :=
    skipSpace_of_head (by decide) _
  have hitem : skipSpace (gap ++ (text ++ rest)) = text ++ rest := by
    obtain ⟨c, cs, rfl, hspace, -⟩ := h.begins
    rw [skipSpace_append hgap]
    exact skipSpace_of_head hspace _
  simp [nextItem, hskip, hitem]

end ReadsAs

theorem nextItem_end (hclose : IsBlank close) (isFirst : Bool) (rest : List Char) :
    nextItem .skip isFirst (close ++ ']' :: rest) = .ok (.done rest) := by
  rw [nextItem, skipSpace_append hclose, skipSpace_of_head (by decide)]
  rfl

theorem nextKey_first (hgap : IsBlank gap) (cs : List Char) : nextKey .skip true (gap ++ '"' :: cs) = .ok (.more cs) := by
  rw [nextKey, skipSpace_append hgap, skipSpace_of_head (by decide)]
  rfl

theorem nextKey_comma (hgap : IsBlank gap) (cs : List Char) :
    nextKey .skip false (',' :: (gap ++ '"' :: cs)) = .ok (.more cs) := by
  have hskip : skipSpace (',' :: (gap ++ '"' :: cs)) = ',' :: (gap ++ '"' :: cs) := skipSpace_of_head (by decide) _
  have hkey : skipSpace (gap ++ '"' :: cs) = '"' :: cs := by
    rw [skipSpace_append hgap]
    exact skipSpace_of_head (by decide) _
  simp [nextKey, hskip, hkey]

theorem nextKey_end (hclose : IsBlank close) (isFirst : Bool) (rest : List Char) :
    nextKey .skip isFirst (close ++ '\x7d' :: rest) = .ok (.done rest) := by
  rw [nextKey, skipSpace_append hclose, skipSpace_of_head (by decide)]
  rfl

theorem scanColon_colon (cs : List Char) : scanColon (':' :: cs) = .ok cs := by
  rw [scanColon, skipSpace_of_head (by decide)]
  rfl

theorem scanItems_gapTail (hgap : IsBlank gap) (hclose : IsBlank close) (h : List.Forall₂ ReadsAs texts js) (fuel : ℕ)
    (hfuel : 2 * (gapTail gap texts).length < fuel) (rest : List Char) :
    scanItems fuel false (gapTail gap texts ++ (close ++ ']' :: rest)) = .ok (js, rest) := by
  induction h generalizing fuel with
  | nil =>
    obtain ⟨fuel, rfl⟩ : ∃ n, fuel = n + 1 := ⟨fuel - 1, by omega⟩
    rw [gapTail, List.flatMap_nil, List.nil_append, scanItems, nextItem_end hclose]
    rfl
  | @cons t j texts js ht _ ih =>
    obtain ⟨fuel, rfl⟩ : ∃ n, fuel = n + 1 := ⟨fuel - 1, by omega⟩
    have htext : gapTail gap (t :: texts) ++ (close ++ ']' :: rest) =
        ',' :: (gap ++ (t ++ (gapTail gap texts ++ (close ++ ']' :: rest)))) := by
      simp [gapTail]
    have hlength : (gapTail gap (t :: texts)).length = 1 + gap.length + t.length + (gapTail gap texts).length := by
      simp [gapTail]
      omega
    have hvalue := ht.scan fuel _ (by omega) (delimited_gapTail gap texts hclose (.inl rfl) rest)
    have hitems := ih fuel (by omega)
    rw [htext, scanItems, ht.nextItem_comma hgap]
    simp only [bind, Except.bind, hvalue, hitems]
    rfl

theorem scanFields_gapTail (hgap : IsBlank gap) (hclose : IsBlank close) (hsep : IsBlank sep)
    {fields : List (String × List Char)} {values : List (String × Json)}
    (h : List.Forall₂ (fun f v => f.1 = v.1 ∧ ReadsAs f.2 v.2) fields values) (fuel : ℕ)
    (hfuel : 2 * (gapTail gap (fields.map fun f => fieldChars sep f.1 f.2)).length < fuel) (rest : List Char) :
    scanFields fuel false (gapTail gap (fields.map fun f => fieldChars sep f.1 f.2) ++ (close ++ '\x7d' :: rest)) =
      .ok (some values, rest) := by
  induction h generalizing fuel with
  | nil =>
    obtain ⟨fuel, rfl⟩ : ∃ n, fuel = n + 1 := ⟨fuel - 1, by omega⟩
    rw [List.map_nil, gapTail, List.flatMap_nil, List.nil_append, scanFields, nextKey_end hclose]
    rfl
  | @cons f v fields values hf _ ih =>
    obtain ⟨k, t⟩ := f
    obtain ⟨k', j⟩ := v
    obtain ⟨rfl : k = k', ht : ReadsAs t j⟩ := hf
    obtain ⟨fuel, rfl⟩ : ∃ n, fuel = n + 1 := ⟨fuel - 1, by omega⟩
    generalize htail : fields.map (fun f => fieldChars sep f.1 f.2) = tail at ih hfuel
    have htext : gapTail gap (fieldChars sep k t :: tail) ++ (close ++ '\x7d' :: rest) =
        ',' :: (gap ++ '"' :: (k.toList.flatMap escapeChar ++ '"' :: ':' :: (sep ++ (t ++
          (gapTail gap tail ++ (close ++ '\x7d' :: rest)))))) := by
      simp [gapTail, fieldChars]
    have hlength : (gapTail gap (fieldChars sep k t :: tail)).length =
        1 + gap.length + (fieldChars sep k t).length + (gapTail gap tail).length := by
      simp [gapTail]
      omega
    have hfield : t.length < (fieldChars sep k t).length := by
      simp [fieldChars]
      omega
    have hvalue := ht.scan_gap hsep fuel (by simp [htail] at hfuel; omega)
      (delimited_gapTail gap tail hclose (.inr rfl) rest)
    have hfields := ih fuel (by simp [htail] at hfuel; omega)
    rw [List.map_cons, htail, htext, scanFields, nextKey_comma hgap]
    simp only [bind, Except.bind, scanString_quote, scanColon_colon, hvalue, hfields]
    rfl

theorem readsAs_scalar {j : Json} (h : j.isScalar = true) : ReadsAs j.print.toList j.reread := by
  obtain ⟨c, cs, hcons, hc⟩ := scalar_head h
  refine ⟨⟨c, cs, hcons, hc.space, hc.listEnd⟩, fun fuel rest hfuel hrest => ?_⟩
  rw [hcons, List.length_cons] at hfuel
  obtain ⟨fuel, rfl⟩ : ∃ n, fuel = n + 1 := ⟨fuel - 1, by omega⟩
  exact scanValue_scalar h fuel hrest

theorem readsAs_noItems : ReadsAs ['[', ']'] (list []) := by
  refine ⟨⟨'[', _, rfl, by decide, by decide⟩, fun fuel rest hfuel hrest => ?_⟩
  have hlength : ['[', ']'].length = 2 := rfl
  obtain ⟨fuel, rfl⟩ : ∃ n, fuel = n + 2 := ⟨fuel - 2, by omega⟩
  rw [List.cons_append, scanValue, skipSpace_of_head (by decide)]
  rfl

theorem readsAs_noFields : ReadsAs ['\x7b', '\x7d'] (object []) := by
  refine ⟨⟨'\x7b', _, rfl, by decide, by decide⟩, fun fuel rest hfuel hrest => ?_⟩
  have hlength : ['\x7b', '\x7d'].length = 2 := rfl
  obtain ⟨fuel, rfl⟩ : ∃ n, fuel = n + 2 := ⟨fuel - 2, by omega⟩
  rw [List.cons_append, scanValue, skipSpace_of_head (by decide)]
  rfl

theorem readsAs_list (hgap : IsBlank gap) (hclose : IsBlank close) (hfirst : ReadsAs first j)
    (h : List.Forall₂ ReadsAs texts js) :
    ReadsAs ('[' :: (gap ++ (first ++ (gapTail gap texts ++ (close ++ [']']))))) (list (j :: js)) := by
  refine ⟨⟨'[', _, rfl, by decide, by decide⟩, fun fuel rest hfuel hrest => ?_⟩
  simp only [List.length_cons, List.length_append, List.length_nil] at hfuel
  obtain ⟨fuel, rfl⟩ : ∃ n, fuel = n + 2 := ⟨fuel - 2, by omega⟩
  have hvalue := hfirst.scan fuel _ (by omega) (delimited_gapTail gap texts hclose (.inl rfl) rest)
  have hitems := scanItems_gapTail hgap hclose h fuel (by omega) rest
  simp only [List.cons_append, List.append_assoc, List.nil_append]
  rw [scanValue, skipSpace_of_head (by decide)]
  simp only [scanItems, hfirst.nextItem_first hgap, bind, Except.bind, hvalue, hitems]
  rfl

theorem readsAs_object (hgap : IsBlank gap) (hclose : IsBlank close) (hsep : IsBlank sep) (k : String)
    (hfirst : ReadsAs first j) {fields : List (String × List Char)} {values : List (String × Json)}
    (h : List.Forall₂ (fun f v => f.1 = v.1 ∧ ReadsAs f.2 v.2) fields values) :
    ReadsAs ('\x7b' :: (gap ++ (fieldChars sep k first ++
      (gapTail gap (fields.map fun f => fieldChars sep f.1 f.2) ++ (close ++ ['\x7d'])))))
      (object ((k, j) :: values)) := by
  refine ⟨⟨'\x7b', _, rfl, by decide, by decide⟩, fun fuel rest hfuel hrest => ?_⟩
  generalize htail : fields.map (fun f => fieldChars sep f.1 f.2) = tail at hfuel
  simp only [List.length_cons, List.length_append, List.length_nil, fieldChars] at hfuel
  obtain ⟨fuel, rfl⟩ : ∃ n, fuel = n + 2 := ⟨fuel - 2, by omega⟩
  have hvalue := hfirst.scan_gap hsep fuel (by omega)
    (delimited_gapTail gap tail hclose (.inr rfl) rest)
  have hfields := scanFields_gapTail hgap hclose hsep h fuel (by rw [htail]; omega) rest
  rw [htail] at hfields
  simp only [fieldChars, List.cons_append, List.append_assoc, List.nil_append]
  rw [scanValue, skipSpace_of_head (by decide)]
  simp only [scanFields, nextKey_first hgap, bind, Except.bind, scanString_quote, scanColon_colon, hvalue, hfields]
  rfl

end Gaps

section Written

variable {ρ : Type} {write : ρ → String} (line pad : List Char) (text : ρ → List Char)

theorem toList_intercalate (sep : String) (hsep : sep.toList = ',' :: line)
    (hwrite : ∀ a, (write a).toList = pad ++ text a) (a : ρ) (as : List ρ) :
    (sep.intercalate ((a :: as).map write)).toList = pad ++ (text a ++ gapTail (line ++ pad) (as.map text)) := by
  induction as generalizing a with
  | nil => simp [gapTail, hwrite]
  | cons b as ih =>
    rw [List.map_cons, List.map_cons, String.intercalate_cons_cons, ← List.map_cons, String.toList_append,
      String.toList_append, ih b, hsep, hwrite]
    simp [gapTail]

end Written

theorem isBlank_nil : IsBlank [] := nofun

theorem forall₂_readsAs (text : Json → List Char) {items : List Json} (h : ∀ j ∈ items, ReadsAs (text j) j.reread) :
    List.Forall₂ ReadsAs (items.map text) (rereadItems items) := by
  rw [rereadItems_eq, List.forall₂_map_left_iff, List.forall₂_map_right_iff, List.forall₂_same]
  exact h

theorem forall₂_readsAs_fields (text : Json → List Char) {fields : List (String × Json)}
    (h : ∀ f ∈ fields, ReadsAs (text f.2) f.2.reread) :
    List.Forall₂ (fun (f : String × List Char) (v : String × Json) => f.1 = v.1 ∧ ReadsAs f.2 v.2)
      (fields.map fun f => (f.1, text f.2)) (rereadFields fields) := by
  rw [rereadFields_eq, List.forall₂_map_left_iff, List.forall₂_map_right_iff, List.forall₂_same]
  exact fun f hf => ⟨rfl, h f hf⟩

def fieldText (f : String × Json) : String := quote f.1 ++ ":" ++ f.2.print

theorem printItems_eq (items : List Json) : printItems items = items.map print := by
  induction items with
  | nil => rfl
  | cons j js ih => rw [printItems, ih, List.map_cons]

theorem printFields_eq (fields : List (String × Json)) : printFields fields = fields.map fieldText := by
  induction fields with
  | nil => rfl
  | cons f fs ih => rw [printFields, ih, List.map_cons, fieldText]

theorem toList_fieldText (f : String × Json) : (fieldText f).toList = [] ++ fieldChars [] f.1 f.2.print.toList := by
  simp [fieldText, fieldChars, toList_quote]

theorem readsAs_print (j : Json) : ReadsAs j.print.toList j.reread := by
  induction j using Json.induction with
  | scalar j h => exact readsAs_scalar h
  | list items ih =>
    cases items with
    | nil => exact readsAs_noItems
    | cons j js =>
      rw [List.forall_mem_cons] at ih
      have hread := readsAs_list isBlank_nil isBlank_nil ih.1 (forall₂_readsAs (fun j => j.print.toList) ih.2)
      have hitems := toList_intercalate [] [] (fun j => j.print.toList) "," rfl (fun _ => rfl) j js
      rw [print, printItems_eq, String.toList_append, String.toList_append, hitems, reread, rereadItems]
      simpa using hread
  | object fields ih =>
    cases fields with
    | nil => exact readsAs_noFields
    | cons f fs =>
      rw [List.forall_mem_cons] at ih
      have hread := readsAs_object isBlank_nil isBlank_nil isBlank_nil f.1 ih.1
        (forall₂_readsAs_fields (fun j => j.print.toList) ih.2)
      have hfields := toList_intercalate [] [] _ "," rfl toList_fieldText f fs
      rw [print, printFields_eq, String.toList_append, String.toList_append, hfields, reread, rereadFields]
      simpa [List.map_map, Function.comp_def] using hread

theorem parse?_of_readsAs {s : String} {j : Json} (h : ReadsAs s.toList j) : parse? s = some j := by
  have hscan := h.scan (3 * s.length + 3) [] (by rw [String.length_toList]; omega) nofun
  rw [List.append_nil] at hscan
  rw [parse?, hscan]
  rfl

theorem parse?_print (j : Json) : parse? j.print = some j.reread := parse?_of_readsAs j.readsAs_print

def indentChars (n : ℕ) : List Char := List.replicate (2 * n) ' '

theorem isBlank_newLine (n : ℕ) : IsBlank ('\n' :: indentChars n) := by
  intro c hc
  rcases List.mem_cons.mp hc with rfl | hspace
  · decide
  · obtain rfl := List.eq_of_mem_replicate hspace
    decide

theorem isBlank_space : IsBlank [' '] := List.forall_mem_singleton.mpr rfl

theorem toList_indent (n : ℕ) : (indent n).toList = indentChars n := String.toList_ofList

def indentedItem (n : ℕ) (j : Json) : String := indent n ++ j.printIndented n

def indentedField (n : ℕ) (f : String × Json) : String := indent n ++ quote f.1 ++ ": " ++ f.2.printIndented n

theorem indentedItems_eq (n : ℕ) (items : List Json) : indentedItems n items = items.map (indentedItem n) := by
  induction items with
  | nil => rfl
  | cons j js ih => rw [indentedItems, ih, List.map_cons, indentedItem]

theorem indentedFields_eq (n : ℕ) (fields : List (String × Json)) :
    indentedFields n fields = fields.map (indentedField n) := by
  induction fields with
  | nil => rfl
  | cons f fs ih => rw [indentedFields, ih, List.map_cons, indentedField]

theorem toList_indentedItem (n : ℕ) (j : Json) :
    (indentedItem n j).toList = indentChars n ++ (j.printIndented n).toList := by
  rw [indentedItem, String.toList_append, toList_indent]

theorem toList_indentedField (n : ℕ) (f : String × Json) :
    (indentedField n f).toList = indentChars n ++ fieldChars [' '] f.1 (f.2.printIndented n).toList := by
  simp [indentedField, fieldChars, toList_quote, toList_indent]

theorem printIndented_noItems (n : ℕ) : (list []).printIndented n = "[]" := by
  rw [printIndented]
  · rfl
  · exact nofun
  · exact nofun

theorem printIndented_noFields (n : ℕ) : (object []).printIndented n = "\x7b\x7d" := by
  rw [printIndented]
  · rfl
  · exact nofun
  · exact nofun

theorem printIndented_scalar (n : ℕ) {j : Json} (h : j.isScalar = true) : j.printIndented n = j.print := by
  cases j with
  | list items => cases h
  | object fields => cases h
  | _ => rw [printIndented] <;> exact nofun

theorem readsAs_printIndented (n : ℕ) (j : Json) : ReadsAs (j.printIndented n).toList j.reread := by
  induction j using Json.induction generalizing n with
  | scalar j h =>
    rw [printIndented_scalar n h]
    exact readsAs_scalar h
  | list items ih =>
    cases items with
    | nil =>
      rw [printIndented_noItems]
      exact readsAs_noItems
    | cons j js =>
      rw [List.forall_mem_cons] at ih
      have hread := readsAs_list (isBlank_newLine (n + 1)) (isBlank_newLine n) (ih.1 (n + 1))
        (forall₂_readsAs (fun j => (j.printIndented (n + 1)).toList) fun j hj => ih.2 j hj (n + 1))
      have hitems := toList_intercalate ['\n'] _ _ ",\n" rfl (toList_indentedItem (n + 1)) j js
      rw [printIndented, indentedItems_eq, reread, rereadItems]
      simp only [String.toList_append, hitems, toList_indent]
      simpa using hread
  | object fields ih =>
    cases fields with
    | nil =>
      rw [printIndented_noFields]
      exact readsAs_noFields
    | cons f fs =>
      rw [List.forall_mem_cons] at ih
      have hread := readsAs_object (isBlank_newLine (n + 1)) (isBlank_newLine n) isBlank_space f.1 (ih.1 (n + 1))
        (forall₂_readsAs_fields (fun j => (j.printIndented (n + 1)).toList) fun f hf => ih.2 f hf (n + 1))
      have hfields := toList_intercalate ['\n'] _ _ ",\n" rfl (toList_indentedField (n + 1)) f fs
      rw [printIndented, indentedFields_eq, reread, rereadFields]
      simp only [String.toList_append, hfields, toList_indent]
      simpa [List.map_map, Function.comp_def] using hread

theorem parse?_pretty (j : Json) : parse? j.pretty = some j.reread := parse?_of_readsAs (readsAs_printIndented 0 j)

theorem isScalar_scaled {signed : Float → Json} (h : ∀ f, (signed f).isScalar = true) (filled : ℕ × List ℕ)
    (frac : List ℕ) (exp : ℤ) : (numberOf.scaled signed filled frac exp).isScalar = true := by
  simp only [numberOf.scaled]
  split
  · split
    · exact h _
    · rfl
  · split
    · exact h 0
    · rfl

theorem isScalar_read (t : NumberText) (isNegative : Bool) : (t.read isNegative).isScalar = true := by
  simp only [NumberText.read, numberOf]
  split
  · split
    · split
      · split <;> rfl
      · rfl
    · exact isScalar_scaled (fun _ => rfl) _ _ _
  · exact isScalar_scaled (fun _ => rfl) _ _ _

theorem isScalar_reread {j : Json} (h : j.isScalar = true) : j.reread.isScalar = true := by
  unfold reread
  split
  · exact isScalar_read _ _
  · split <;> rfl
  · cases h
  · cases h
  · rfl
  · exact h

theorem depth_reread_le {j : Json} {n : ℕ} (h : j.depth ≤ n) : j.reread.depth ≤ n := by
  induction j using Json.induction generalizing n with
  | scalar j hj =>
    rw [depth_scalar (isScalar_reread hj)]
    exact n.zero_le
  | list items ih =>
    obtain ⟨n, rfl, hall⟩ := exists_of_depth_list_le h
    rw [reread, rereadItems_eq, depth_list_le_iff, List.forall_mem_map]
    exact fun j hj => ih j hj (hall j hj)
  | object fields ih =>
    obtain ⟨n, rfl, hall⟩ := exists_of_depth_object_le h
    rw [reread, rereadFields_eq, depth_object_le_iff, List.forall_mem_map]
    exact fun f hf => ih f hf (hall f hf)

theorem within?_parse?_print {α : Type} (read : Json → Option α) {j : Json} (h : j.depth ≤ depthLimit) :
    (parse? j.print).bind (within? read) = read j.reread := by
  rw [parse?_print, Option.bind_some, within?, limited_eq_self (depth_reread_le h)]

end PortfolioReports.Json
