import Mathlib.Data.List.Forall2
import Mathlib.Data.List.Infix
import Mathlib.Data.List.TakeWhile
import PortfolioReports.Text.Wildcard

namespace PortfolioReports.Text

def Wild.StandsFor : Wild → List Char → Prop
  | many, _ => True
  | one, part => part.length = 1
  | char a, part => ∃ c, part = [c] ∧ c.toLower = a.toLower

/-- The text can be cut into parts, one for each sign of the pattern. -/
def Matches (ws : List Wild) (cs : List Char) : Prop :=
  ∃ parts : List (List Char), cs = parts.flatten ∧ List.Forall₂ Wild.StandsFor ws parts

variable {w : Wild} {ws : List Wild} {cs : List Char}

theorem matches_nil_iff : Matches [] cs ↔ cs = [] := by
  constructor
  · rintro ⟨parts, rfl, hparts⟩
    rw [List.forall₂_nil_left_iff.mp hparts, List.flatten_nil]
  · rintro rfl
    exact ⟨[], rfl, .nil⟩

theorem matches_cons_iff :
    Matches (w :: ws) cs ↔ ∃ part rest, cs = part ++ rest ∧ w.StandsFor part ∧ Matches ws rest := by
  constructor
  · rintro ⟨parts, rfl, hparts⟩
    cases hparts with
    | cons hpart hrest => exact ⟨_, _, List.flatten_cons, hpart, _, rfl, hrest⟩
  · rintro ⟨part, _, rfl, hpart, parts, rfl, hparts⟩
    exact ⟨part :: parts, List.flatten_cons.symm, .cons hpart hparts⟩

theorem matches_many_iff : Matches (.many :: ws) cs ↔ ∃ rest, rest <:+ cs ∧ Matches ws rest := by
  rw [matches_cons_iff]
  constructor
  · rintro ⟨part, rest, rfl, -, hrest⟩
    exact ⟨rest, List.suffix_append part rest, hrest⟩
  · rintro ⟨rest, ⟨part, rfl⟩, hrest⟩
    exact ⟨part, rest, rfl, trivial, hrest⟩

theorem matches_one_iff : Matches (.one :: ws) cs ↔ ∃ c rest, cs = c :: rest ∧ Matches ws rest := by
  rw [matches_cons_iff]
  constructor
  · rintro ⟨part, rest, rfl, hpart, hrest⟩
    obtain ⟨c, rfl⟩ := List.length_eq_one_iff.mp hpart
    exact ⟨c, rest, rfl, hrest⟩
  · rintro ⟨c, rest, rfl, hrest⟩
    exact ⟨[c], rest, rfl, rfl, hrest⟩

theorem matches_char_iff {a : Char} :
    Matches (.char a :: ws) cs ↔ ∃ c rest, cs = c :: rest ∧ sameLetter a c = true ∧ Matches ws rest := by
  rw [matches_cons_iff]
  constructor
  · rintro ⟨_, rest, rfl, ⟨c, rfl, hsame⟩, hrest⟩
    exact ⟨c, rest, rfl, beq_iff_eq.mpr hsame.symm, hrest⟩
  · rintro ⟨c, rest, rfl, hsame, hrest⟩
    exact ⟨[c], rest, rfl, ⟨c, rfl, (beq_iff_eq.mp hsame).symm⟩, hrest⟩

theorem matches_append_iff {ws' : List Wild} :
    Matches (ws ++ ws') cs ↔ ∃ front back, cs = front ++ back ∧ Matches ws front ∧ Matches ws' back := by
  induction ws generalizing cs with
  | nil => simp [matches_nil_iff]
  | cons w ws ih =>
    simp only [List.cons_append, matches_cons_iff, ih]
    constructor
    · rintro ⟨part, _, rfl, hpart, front, back, rfl, hfront, hback⟩
      exact ⟨part ++ front, back, (List.append_assoc ..).symm, ⟨part, front, rfl, hpart, hfront⟩, hback⟩
    · rintro ⟨_, back, rfl, ⟨part, front, rfl, hpart, hfront⟩, hback⟩
      exact ⟨part, front ++ back, List.append_assoc .., hpart, front, back, rfl, hfront, hback⟩

theorem matches_between_iff : Matches (.many :: ws ++ [.many]) cs ↔ ∃ part, part <:+: cs ∧ Matches ws part := by
  have hlast : ∀ back, Matches [.many] back := fun back => ⟨[back], by simp, .cons trivial .nil⟩
  rw [List.cons_append, matches_many_iff]
  constructor
  · rintro ⟨rest, hrest, hmatch⟩
    obtain ⟨part, back, rfl, hpart, -⟩ := matches_append_iff.mp hmatch
    exact ⟨part, List.infix_iff_prefix_suffix.mpr ⟨_, List.prefix_append part back, hrest⟩, hpart⟩
  · rintro ⟨part, ⟨front, back, rfl⟩, hpart⟩
    refine ⟨part ++ back, ⟨front, (List.append_assoc ..).symm⟩, ?_⟩
    exact matches_append_iff.mpr ⟨part, back, rfl, hpart, hlast back⟩

theorem matches_chars_iff {as : List Char} : Matches (as.map .char) cs ↔ cs.map Char.toLower = as.map Char.toLower := by
  induction as generalizing cs with
  | nil => simp [matches_nil_iff]
  | cons a as ih =>
    rw [List.map_cons, matches_char_iff, List.map_cons, List.map_eq_cons_iff]
    simp only [ih, sameLetter, beq_iff_eq]
    constructor
    · rintro ⟨c, rest, rfl, hsame, hrest⟩
      exact ⟨c, rest, rfl, hsame.symm, hrest⟩
    · rintro ⟨c, rest, rfl, hsame, hrest⟩
      exact ⟨c, rest, rfl, hsame.symm, hrest⟩

/-- One mark for each tail of a text, from the text itself to the empty one, says whether the tail is of some kind. -/
def Marks (kind : List Char → Prop) (cs : List Char) (marks : List Bool) : Prop :=
  List.Forall₂ (fun tail mark => mark = true ↔ kind tail) cs.tails marks

namespace Marks

variable {kind : List Char → Prop} {marks : List Bool} {c : Char}

theorem nil_iff : Marks kind [] marks ↔ ∃ mark, (mark = true ↔ kind []) ∧ marks = [mark] := by
  simp [Marks, List.forall₂_cons_left_iff, List.forall₂_nil_left_iff]

theorem cons_iff : Marks kind (c :: cs) marks ↔
    ∃ mark rest, (mark = true ↔ kind (c :: cs)) ∧ Marks kind cs rest ∧ marks = mark :: rest := by
  rw [Marks, List.tails_cons, List.forall₂_cons_left_iff]
  exact Iff.rfl

theorem headD_iff (h : Marks kind cs marks) : marks.headD false = true ↔ kind cs := by
  cases cs with
  | nil =>
    obtain ⟨mark, hmark, rfl⟩ := nil_iff.mp h
    exact hmark
  | cons c cs =>
    obtain ⟨mark, rest, hmark, -, rfl⟩ := cons_iff.mp h
    exact hmark

theorem length_eq (h : Marks kind cs marks) : marks.length = cs.length + 1 := by
  rw [← List.Forall₂.length_eq h, List.length_tails]

theorem congr {kind' : List Char → Prop} (hkind : ∀ tail, kind tail ↔ kind' tail) (h : Marks kind cs marks) :
    Marks kind' cs marks :=
  List.Forall₂.imp (fun _ _ hmark => hmark.trans (hkind _)) h

theorem markBefore (h : Marks kind cs marks) :
    Marks (fun tail => ∃ rest, rest <:+ tail ∧ kind rest) cs (markBefore marks) := by
  induction cs generalizing marks with
  | nil =>
    obtain ⟨mark, hmark, rfl⟩ := nil_iff.mp h
    refine nil_iff.mpr ⟨_, ?_, rfl⟩
    simpa [Text.markBefore] using hmark
  | cons c cs ih =>
    obtain ⟨mark, rest, hmark, hrest, rfl⟩ := cons_iff.mp h
    refine cons_iff.mpr ⟨_, _, ?_, ih hrest, rfl⟩
    rw [Bool.or_eq_true, hmark, (ih hrest).headD_iff]
    simp only [List.suffix_cons_iff, or_and_right, exists_or, exists_eq_left]

theorem zipWith_drop_one (ok : Char → Bool) (h : Marks kind cs marks) :
    Marks (fun tail => ∃ c rest, tail = c :: rest ∧ ok c = true ∧ kind rest) cs
      (cs.zipWith (fun c mark => ok c && mark) (marks.drop 1) ++ [false]) := by
  induction cs generalizing marks with
  | nil => exact nil_iff.mpr ⟨false, by simp, rfl⟩
  | cons c cs ih =>
    obtain ⟨mark, rest, -, hrest, rfl⟩ := cons_iff.mp h
    have hnext := hrest.headD_iff
    obtain ⟨next, rest, rfl⟩ := List.exists_cons_of_length_eq_add_one hrest.length_eq
    refine cons_iff.mpr ⟨ok c && next, _, ?_, ih hrest, rfl⟩
    rw [Bool.and_eq_true, show next = true ↔ kind cs from hnext]
    simp

theorem of_wild (h : Marks (Matches ws) cs marks) : Marks (Matches (w :: ws)) cs (w.marks cs marks) := by
  cases w with
  | many => exact h.markBefore.congr fun tail => matches_many_iff.symm
  | one =>
    have hlength : cs.length = (marks.drop 1).length := by rw [List.length_drop, h.length_eq, Nat.add_sub_cancel]
    have hmarks : cs.zipWith (fun _ mark => true && mark) (marks.drop 1) = marks.drop 1 := by
      refine List.ext_getElem ?_ fun i _ _ => by rw [List.getElem_zipWith, Bool.true_and]
      rw [List.length_zipWith, hlength, Nat.min_self]
    have hone := h.zipWith_drop_one fun _ => true
    rw [hmarks] at hone
    exact hone.congr fun tail => by simp only [matches_one_iff, true_and]
  | char a => exact (h.zipWith_drop_one (sameLetter a)).congr fun tail => matches_char_iff.symm

theorem of_empty : Marks (Matches []) cs (cs.map (fun _ => false) ++ [true]) := by
  induction cs with
  | nil => exact nil_iff.mpr ⟨true, by simp [matches_nil_iff], rfl⟩
  | cons c cs ih => exact cons_iff.mpr ⟨false, _, by simp [matches_nil_iff], ih, rfl⟩

end Marks

theorem matchesWild_iff (ws : List Wild) (cs : List Char) : matchesWild ws cs = true ↔ Matches ws cs := by
  have hmarks : Marks (Matches ws) cs
      (ws.foldr (fun w rest => w.marks cs rest) (cs.map (fun _ => false) ++ [true])) := by
    induction ws with
    | nil => exact .of_empty
    | cons w ws ih => exact ih.of_wild
  exact hmarks.headD_iff

def IsWhole (s : String) : Prop := ∀ c ∈ s.toList, c ≠ '\x00' ∧ c ≠ '\uFFFE' ∧ c ≠ '\uFFFF'

def IsLiteral (search : String) : Prop := IsWhole search ∧ ∀ c ∈ search.toList, c ≠ '%' ∧ c ≠ '_'

def Contains (search s : String) : Prop := search.toList.map Char.toLower <:+: s.toList.map Char.toLower

-- by the characters of the text: there is also an instance that goes through all characters that there are
instance (s : String) : Decidable (IsWhole s) := List.decidableBAll _ s.toList

instance (search : String) : Decidable (IsLiteral search) :=
  @instDecidableAnd _ _ _ (List.decidableBAll _ search.toList)

instance (search s : String) : Decidable (Contains search s) := List.decidableInfix _ _

variable {search s : String}

theorem found_iff : found search s = true ↔ Matches (containing search) (comparable s) :=
  matchesWild_iff _ _

def beforeNul (s : String) : List Char := s.toList.takeWhile fun c => c ≠ '\x00'

theorem beforeNul_eq_toList_iff : beforeNul s = s.toList ↔ '\x00' ∉ s.toList := by
  rw [beforeNul, List.takeWhile_eq_self_iff]
  constructor
  · exact fun h hc => of_decide_eq_true (h _ hc) rfl
  · exact fun h a ha => decide_eq_true fun hac => h (hac ▸ ha)

theorem length_beforeNul_eq_iff : (beforeNul s).length = s.toList.length ↔ '\x00' ∉ s.toList := by
  rw [← beforeNul_eq_toList_iff]
  exact ⟨(List.takeWhile_prefix _).eq_of_length, congrArg List.length⟩

theorem ne_of_mem_beforeNul {c : Char} (hc : c ∈ beforeNul s) : c ≠ '\x00' :=
  of_decide_eq_true (List.mem_takeWhile_imp (p := fun a => decide (a ≠ '\x00')) hc)

theorem IsWhole.beforeNul_eq (h : IsWhole s) : beforeNul s = s.toList :=
  beforeNul_eq_toList_iff.mpr fun hc => (h _ hc).1 rfl

theorem IsWhole.readable_eq (h : IsWhole s) {c : Char} (hc : c ∈ s.toList) : readable c = c :=
  if_neg (not_or.mpr (h c hc).2)

theorem IsWhole.comparable_eq (h : IsWhole s) : comparable s = s.toList := by
  have hread : comparable s = (beforeNul s).map readable := rfl
  rw [hread, h.beforeNul_eq, List.map_congr_left fun c hc => h.readable_eq hc, List.map_id']

theorem containing_eq (search : String) : containing search =
    .many :: (beforeNul search).map (fun c => Wild.ofChar (readable c)) ++
      if '\x00' ∈ search.toList then [] else [.many] := by
  have hsigns : ("%" ++ search ++ "%").toList = '%' :: (search.toList ++ ['%']) := by
    rw [String.toList_append, String.toList_append]
    rfl
  have hmany : Wild.ofChar (readable '%') = .many := by decide
  rw [containing, comparable, hsigns, List.takeWhile_cons_of_pos (by decide), List.takeWhile_append, ← beforeNul,
    List.map_cons, List.map_cons, hmany, List.map_map]
  by_cases hnul : '\x00' ∈ search.toList
  · rw [if_neg (mt length_beforeNul_eq_iff.mp (not_not_intro hnul)), if_pos hnul, List.append_nil]
    rfl
  · rw [if_pos (length_beforeNul_eq_iff.mpr hnul), if_neg hnul, beforeNul_eq_toList_iff.mpr hnul, List.map_append]
    rfl

theorem IsLiteral.containing_eq (h : IsLiteral search) :
    containing search = .many :: search.toList.map .char ++ [.many] := by
  have hsigns : ∀ c ∈ search.toList, Wild.ofChar (readable c) = .char c := fun c hc => by
    rw [h.1.readable_eq hc, Wild.ofChar, if_neg (h.2 c hc).1, if_neg (h.2 c hc).2]
  rw [Text.containing_eq, if_neg (beforeNul_eq_toList_iff.mp h.1.beforeNul_eq), h.1.beforeNul_eq,
    List.map_congr_left hsigns]

theorem IsLiteral.found_iff (h : IsLiteral search) (hs : IsWhole s) : found search s = true ↔ Contains search s := by
  rw [Text.found_iff, h.containing_eq, hs.comparable_eq, matches_between_iff, Contains, List.infix_map_iff]
  exact exists_congr fun part => and_congr_right fun _ => matches_chars_iff.trans eq_comm

def standIn (c : Char) : Char := if c = '%' then '_' else if c = '_' then '%' else readable c

theorem standsFor_standIn (c : Char) : (Wild.ofChar (readable c)).StandsFor [standIn c] := by
  by_cases hmany : c = '%'
  · rw [hmany]
    exact trivial
  by_cases hone : c = '_'
  · rw [hone]
    exact List.length_singleton
  · have hsign : Wild.ofChar (readable c) = .char (readable c) := by
      rw [readable]
      split
      · decide
      · rw [Wild.ofChar, if_neg hmany, if_neg hone]
    rw [standIn, if_neg hmany, if_neg hone, hsign]
    exact ⟨_, rfl, rfl⟩

theorem standIn_ne {c : Char} (hc : c ≠ '\x00') :
    standIn c ≠ '\x00' ∧ standIn c ≠ '\uFFFE' ∧ standIn c ≠ '\uFFFF' := by
  rw [standIn, readable]
  split_ifs with _ _ hlast
  · decide
  · decide
  · decide
  · exact ⟨hc, not_or.mp hlast⟩

theorem standIn_toLower_eq {c : Char} (h : (standIn c).toLower = c.toLower) :
    (c ≠ '\uFFFE' ∧ c ≠ '\uFFFF') ∧ c ≠ '%' ∧ c ≠ '_' := by
  refine ⟨⟨?_, ?_⟩, ?_, ?_⟩ <;> (rintro rfl; revert h; decide)

theorem matches_map_standIn (cs : List Char) :
    Matches (cs.map fun c => Wild.ofChar (readable c)) (cs.map standIn) := by
  induction cs with
  | nil => exact matches_nil_iff.mpr rfl
  | cons c cs ih => exact matches_cons_iff.mpr ⟨[standIn c], cs.map standIn, rfl, standsFor_standIn c, ih⟩

def mistaken (search : String) : String := String.ofList ((beforeNul search).map standIn)

theorem toList_mistaken (search : String) : (mistaken search).toList = (beforeNul search).map standIn :=
  String.toList_ofList

theorem isWhole_mistaken (search : String) : IsWhole (mistaken search) := by
  intro a ha
  rw [toList_mistaken] at ha
  obtain ⟨c, hc, rfl⟩ := List.mem_map.mp ha
  exact standIn_ne (ne_of_mem_beforeNul hc)

theorem found_mistaken (search : String) : found search (mistaken search) = true := by
  rw [found_iff, (isWhole_mistaken search).comparable_eq, toList_mistaken, containing_eq]
  have hpart := matches_map_standIn (beforeNul search)
  split
  · rw [List.append_nil]
    exact matches_many_iff.mpr ⟨_, List.suffix_rfl, hpart⟩
  · exact matches_between_iff.mpr ⟨_, List.infix_rfl, hpart⟩

theorem isLiteral_of_contains_mistaken (h : Contains search (mistaken search)) : IsLiteral search := by
  rw [Contains, toList_mistaken, List.map_map] at h
  -- the text found is no longer than what is searched for, so that they are the same, letter for letter
  have hle := h.length_le
  rw [List.length_map, List.length_map] at hle
  have hall : beforeNul search = search.toList := (List.takeWhile_prefix _).eq_of_length_le hle
  rw [hall] at h
  have hsame := h.eq_of_length (by rw [List.length_map, List.length_map])
  have hchars : ∀ c ∈ search.toList, (c ≠ '\uFFFE' ∧ c ≠ '\uFFFF') ∧ c ≠ '%' ∧ c ≠ '_' := fun c hc =>
    standIn_toLower_eq (List.map_inj_left.mp hsame c hc).symm
  refine ⟨fun c hc => ⟨?_, (hchars c hc).1⟩, fun c hc => (hchars c hc).2⟩
  rintro rfl
  exact beforeNul_eq_toList_iff.mp hall hc

/-- A search tells the texts that contain what is searched for just when that stands for itself. -/
theorem forall_found_iff : (∀ s, IsWhole s → (found search s = true ↔ Contains search s)) ↔ IsLiteral search := by
  constructor
  · exact fun h => isLiteral_of_contains_mistaken ((h _ (isWhole_mistaken search)).mp (found_mistaken search))
  · exact fun h s hs => h.found_iff hs

end PortfolioReports.Text
