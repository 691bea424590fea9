import Mathlib.Data.List.DropRight
import PortfolioReports.Text.Blank

namespace PortfolioReports.Text

def IsGap (gap : List Char) : Prop := ∀ c ∈ gap, isBlank c = true

def IsWord (w : List Char) : Prop := w ≠ [] ∧ ∀ c ∈ w, isBlank c = false

/-- A word ends before this text: it is empty, or begins with a blank. -/
def EndsWord (rest : List Char) : Prop := ∀ c ∈ rest.head?, isBlank c = true

variable {w gap rest cs : List Char} {ws : List (List Char)}

theorem IsGap.endsWord_append (h : IsGap gap) (hne : gap ≠ []) : EndsWord (gap ++ rest) := by
  intro c hc
  rw [List.head?_append_of_ne_nil _ hne] at hc
  exact h c (List.mem_of_head? hc)

theorem IsGap.endsWord (h : IsGap gap) : EndsWord gap := fun c hc => h c (List.mem_of_head? hc)

theorem wordsAfter_append (hw : ∀ c ∈ w, isBlank c = false) (begun cs : List Char) :
    wordsAfter begun (w ++ cs) = wordsAfter (w.reverse ++ begun) cs := by
  induction w generalizing begun with
  | nil => rfl
  | cons c w ih =>
    obtain ⟨hc, hw⟩ := List.forall_mem_cons.mp hw
    rw [List.cons_append, wordsAfter, hc, if_neg Bool.false_ne_true, ih hw, List.reverse_cons, List.append_assoc]
    rfl

theorem wordsAfter_of_endsWord (h : EndsWord rest) (begun : List Char) :
    wordsAfter begun rest = consWord begun (words rest) := by
  cases rest with
  | nil => rfl
  | cons c cs =>
    have hc : isBlank c = true := h c rfl
    rw [wordsAfter, words, wordsAfter, hc]
    rfl

theorem words_gap_append (h : IsGap gap) (cs : List Char) : words (gap ++ cs) = words cs := by
  induction gap with
  | nil => rfl
  | cons c gap ih =>
    obtain ⟨hc, hgap⟩ := List.forall_mem_cons.mp h
    rw [← ih hgap, List.cons_append, words, wordsAfter, hc]
    rfl

theorem words_word_append (hw : IsWord w) (hrest : EndsWord rest) : words (w ++ rest) = w :: words rest := by
  have hbegun : w.reverse.isEmpty = false := by simpa using hw.1
  rw [words, wordsAfter_append hw.2, List.append_nil, wordsAfter_of_endsWord hrest, consWord, hbegun,
    List.reverse_reverse]
  rfl

theorem words_gap (h : IsGap gap) : words gap = [] := by
  have hwords := words_gap_append h []
  rwa [List.append_nil] at hwords

theorem eq_gap_or_exists_word (cs : List Char) :
    IsGap cs ∨ ∃ gap w rest, cs = gap ++ (w ++ rest) ∧ IsGap gap ∧ IsWord w ∧ EndsWord rest := by
  have hgap : IsGap (cs.takeWhile isBlank) := fun c hc => List.mem_takeWhile_imp hc
  have hcs : cs = cs.takeWhile isBlank ++ cs.dropWhile isBlank := List.takeWhile_append_dropWhile.symm
  cases hafter : cs.dropWhile isBlank with
  | nil =>
    rw [hafter, List.append_nil] at hcs
    exact .inl (hcs ▸ hgap)
  | cons c after =>
    right
    have hc : isBlank c = false := by
      have hhead := List.head?_dropWhile_not isBlank cs
      rwa [hafter] at hhead
    refine ⟨_, (c :: after).takeWhile fun c => !isBlank c, (c :: after).dropWhile fun c => !isBlank c, ?_, hgap,
      ⟨?_, fun d hd => ?_⟩, fun d hd => ?_⟩
    · rwa [List.takeWhile_append_dropWhile, ← hafter]
    · rw [List.takeWhile_cons_of_pos (by simpa using hc)]
      exact List.cons_ne_nil _ _
    · simpa using List.mem_takeWhile_imp hd
    · have hhead := List.head?_dropWhile_not (fun c => !isBlank c) (c :: after)
      rw [Option.mem_def.mp hd] at hhead
      simpa using hhead

theorem words_eq_nil_iff : words cs = [] ↔ IsGap cs := by
  refine ⟨fun h => ?_, words_gap⟩
  obtain hgap | ⟨gap, w, rest, rfl, hgap, hw, hrest⟩ := eq_gap_or_exists_word cs
  · exact hgap
  · rw [words_gap_append hgap, words_word_append hw hrest] at h
    cases h

theorem words_eq_cons_iff :
    words cs = w :: ws ↔
      ∃ gap rest, cs = gap ++ (w ++ rest) ∧ IsGap gap ∧ IsWord w ∧ EndsWord rest ∧ words rest = ws := by
  constructor
  · intro h
    obtain hgap | ⟨gap, w', rest, rfl, hgap, hw, hrest⟩ := eq_gap_or_exists_word cs
    · rw [words_gap hgap] at h
      cases h
    · rw [words_gap_append hgap, words_word_append hw hrest] at h
      obtain ⟨rfl, rfl⟩ := List.cons.inj h
      exact ⟨gap, rest, rfl, hgap, hw, hrest, rfl⟩
  · rintro ⟨gap, rest, rfl, hgap, hw, hrest, rfl⟩
    rw [words_gap_append hgap, words_word_append hw hrest]

theorem words_word_gap_append (hw : IsWord w) (hgap : IsGap gap) (hne : gap ≠ []) (cs : List Char) :
    words (w ++ (gap ++ cs)) = w :: words cs := by
  rw [words_word_append hw (hgap.endsWord_append hne), words_gap_append hgap]

theorem EndsWord.exists_gap (h : EndsWord cs) (hwords : words cs = w :: ws) :
    ∃ gap rest, cs = gap ++ (w ++ rest) ∧ (gap ≠ [] ∧ IsGap gap) ∧ IsWord w ∧ EndsWord rest ∧ words rest = ws := by
  obtain ⟨gap, rest, rfl, hgap, hw, hrest⟩ := words_eq_cons_iff.mp hwords
  refine ⟨gap, rest, rfl, ⟨?_, hgap⟩, hw, hrest⟩
  rintro rfl
  obtain ⟨c, w, rfl⟩ := List.exists_cons_of_ne_nil hw.1
  have hblank := h c rfl
  rw [hw.2 c List.mem_cons_self] at hblank
  cases hblank

theorem wordsAfter_append_gap (h : IsGap gap) (begun cs : List Char) :
    wordsAfter begun (cs ++ gap) = wordsAfter begun cs := by
  induction cs generalizing begun with
  | nil => rw [List.nil_append, wordsAfter_of_endsWord h.endsWord, words_gap h, wordsAfter]
  | cons c cs ih => rw [List.cons_append, wordsAfter, wordsAfter, ih, ih]

theorem words_trimLeft (cs : List Char) : words (trimLeft cs) = words cs := by
  have hgap : IsGap (cs.takeWhile isBlank) := fun c hc => List.mem_takeWhile_imp hc
  rw [trimLeft, ← words_gap_append hgap, List.takeWhile_append_dropWhile]

theorem words_trimRight (cs : List Char) : words (trimRight cs) = words cs := by
  have hgap : IsGap (cs.rtakeWhile isBlank) := fun c hc => List.mem_rtakeWhile_imp hc
  calc
    words (trimRight cs) = words (cs.rdropWhile isBlank ++ cs.rtakeWhile isBlank) :=
      (wordsAfter_append_gap hgap [] _).symm
    _ = words cs := by rw [List.rdropWhile_append_rtakeWhile]

theorem words_trim (s : String) : words (trim s).toList = words s.toList := by
  rw [trim, String.toList_ofList, words_trimRight, words_trimLeft]

end PortfolioReports.Text
