import PortfolioReports.Proofs.Text.Words
import PortfolioReports.Records.Schedule

namespace PortfolioReports

open Text

def IsCronLetter (c : Char) : Prop :=
  '0' ≤ c ∧ c ≤ '9' ∨ 'A' ≤ c ∧ c ≤ 'Z' ∨ 'a' ≤ c ∧ c ≤ 'z' ∨ c ∈ ['*', '/', ',', '?', '-']

theorem isCronChar_iff {c : Char} : isCronChar c = true ↔ IsCronLetter c := by
  have hword : c.isAlphanum = (decide ('A' ≤ c ∧ c ≤ 'Z') || decide ('a' ≤ c) && decide (c ≤ 'z') ||
      (decide ('0' ≤ c) && decide (c ≤ '9'))) := rfl
  simp only [isCronChar, hword, Bool.or_eq_true, Bool.and_eq_true, decide_eq_true_eq, IsCronLetter, List.mem_cons,
    List.not_mem_nil]
  tauto

theorem IsCronLetter.between {c : Char} (h : IsCronLetter c) : '*'.toNat ≤ c.toNat ∧ c.toNat ≤ 'z'.toNat := by
  rcases h with ⟨hlow, hhigh⟩ | ⟨hlow, hhigh⟩ | ⟨hlow, hhigh⟩ | hsign
  · exact ⟨le_trans (by decide) hlow, le_trans hhigh (by decide)⟩
  · exact ⟨le_trans (by decide) hlow, le_trans hhigh (by decide)⟩
  · exact ⟨le_trans (by decide) hlow, hhigh⟩
  · simp only [List.mem_cons, List.not_mem_nil, or_false] at hsign
    rcases hsign with rfl | rfl | rfl | rfl | rfl <;> decide

theorem IsCronLetter.isBlank_eq_false {c : Char} (h : IsCronLetter c) : isBlank c = false := by
  obtain ⟨hlow, hhigh⟩ := h.between
  have hranges : ∀ r ∈ blankRanges, r.2 < '*'.toNat ∨ 'z'.toNat < r.1 := by decide
  refine List.any_eq_false.mpr fun r hr => ?_
  have hr := hranges r hr
  simp only [Bool.and_eq_true, decide_eq_true_eq]
  omega

theorem isWord_of_letters {word : List Char} (hne : word ≠ []) (h : ∀ c ∈ word, IsCronLetter c) : IsWord word :=
  ⟨hne, fun c hc => (h c hc).isBlank_eq_false⟩

structure CronFields where
  minute : List Char
  hour : List Char
  day : List Char
  month : List Char
  weekday : List Char

namespace CronFields

def toList (f : CronFields) : List (List Char) := [f.minute, f.hour, f.day, f.month, f.weekday]

theorem toList_injective : Function.Injective toList := by
  rintro ⟨⟩ ⟨⟩ h
  simpa [toList] using h

/-- The expression is written with these fields. -/
def Spell (f : CronFields) (expression : String) : Prop :=
  ∃ lead gap₁ gap₂ gap₃ gap₄ trail : List Char,
    expression.toList = lead ++ f.minute ++ gap₁ ++ f.hour ++ gap₂ ++ f.day ++ gap₃ ++ f.month ++ gap₄ ++ f.weekday ++
      trail ∧
    (∀ word ∈ f.toList, word ≠ [] ∧ ∀ c ∈ word, IsCronLetter c) ∧
    (∀ gap ∈ [gap₁, gap₂, gap₃, gap₄], gap ≠ [] ∧ ∀ c ∈ gap, isBlank c = true) ∧
    ∀ edge ∈ [lead, trail], ∀ c ∈ edge, isBlank c = true

variable {f f' : CronFields} {expression : String}

theorem Spell.words_eq (h : f.Spell expression) : words expression.toList = f.toList := by
  obtain ⟨lead, gap₁, gap₂, gap₃, gap₄, trail, hexpression, hletters, hgaps, hedges⟩ := h
  have hword : ∀ word ∈ f.toList, IsWord word := fun word hmem =>
    isWord_of_letters (hletters word hmem).1 (hletters word hmem).2
  simp only [toList, List.forall_mem_cons] at hword
  simp only [List.forall_mem_cons] at hgaps hedges
  obtain ⟨hminute, hhour, hday, hmonth, hweekday, -⟩ := hword
  obtain ⟨hgap₁, hgap₂, hgap₃, hgap₄, -⟩ := hgaps
  obtain ⟨hlead, htrail, -⟩ := hedges
  simp only [hexpression, List.append_assoc]
  rw [words_gap_append hlead, words_word_gap_append hminute hgap₁.2 hgap₁.1,
    words_word_gap_append hhour hgap₂.2 hgap₂.1, words_word_gap_append hday hgap₃.2 hgap₃.1,
    words_word_gap_append hmonth hgap₄.2 hgap₄.1, words_word_append hweekday (IsGap.endsWord htrail), words_gap htrail]
  rfl

theorem spell_iff :
    f.Spell expression ↔ words expression.toList = f.toList ∧ ∀ word ∈ f.toList, ∀ c ∈ word, IsCronLetter c := by
  constructor
  · intro h
    have hletters := h
    obtain ⟨-, -, -, -, -, -, -, hletters, -⟩ := hletters
    exact ⟨h.words_eq, fun word hmem => (hletters word hmem).2⟩
  · rintro ⟨hwords, hletters⟩
    obtain ⟨lead, rest, hexpression, hlead, hminute, hend, hwords⟩ := words_eq_cons_iff.mp hwords
    obtain ⟨gap₁, rest, rfl, hgap₁, hhour, hend, hwords⟩ := hend.exists_gap hwords
    obtain ⟨gap₂, rest, rfl, hgap₂, hday, hend, hwords⟩ := hend.exists_gap hwords
    obtain ⟨gap₃, rest, rfl, hgap₃, hmonth, hend, hwords⟩ := hend.exists_gap hwords
    obtain ⟨gap₄, trail, rfl, hgap₄, hweekday, hend, hwords⟩ := hend.exists_gap hwords
    refine ⟨lead, gap₁, gap₂, gap₃, gap₄, trail, by simpa using hexpression, fun word hmem =>
      ⟨?_, hletters word hmem⟩, ?_, ?_⟩
    · simp only [toList, List.mem_cons, List.not_mem_nil, or_false] at hmem
      rcases hmem with rfl | rfl | rfl | rfl | rfl
      exacts [hminute.1, hhour.1, hday.1, hmonth.1, hweekday.1]
    · simpa only [List.forall_mem_cons, List.not_mem_nil, false_implies, implies_true, and_true] using
        ⟨hgap₁, hgap₂, hgap₃, hgap₄⟩
    · simpa only [List.forall_mem_cons, List.not_mem_nil, false_implies, implies_true, and_true] using
        ⟨hlead, words_eq_nil_iff.mp hwords⟩

theorem Spell.eq (h : f.Spell expression) (h' : f'.Spell expression) : f = f' :=
  toList_injective (h.words_eq.symm.trans h'.words_eq)

theorem spell_trim_iff : f.Spell (trim expression) ↔ f.Spell expression := by
  rw [spell_iff, spell_iff, words_trim]

end CronFields

theorem validateCron_eq_ok_iff {expression : String} :
    validateCron expression = .ok () ↔
      (words expression.toList).length = 5 ∧ ∀ word ∈ words expression.toList, ∀ c ∈ word, IsCronLetter c := by
  unfold validateCron
  dsimp only
  by_cases hlength : (words expression.toList).length = 5
  · rw [if_neg (not_not.mpr hlength)]
    have hnone : (words expression.toList).find? (fun f => !f.all isCronChar) = none ↔
        ∀ word ∈ words expression.toList, ∀ c ∈ word, IsCronLetter c := by
      simp [isCronChar_iff]
    cases hfind : (words expression.toList).find? fun f => !f.all isCronChar with
    | none => simpa [hlength] using hnone.mp hfind
    | some word => simpa [hlength, hfind] using hnone
  · simp [hlength]

theorem validateCron_eq_ok_iff_spell {expression : String} :
    validateCron expression = .ok () ↔ ∃! f : CronFields, f.Spell expression := by
  rw [validateCron_eq_ok_iff]
  constructor
  · rintro ⟨hlength, hletters⟩
    match hwords : words expression.toList, hlength with
    | [minute, hour, day, month, weekday], _ =>
      rw [hwords] at hletters
      have hspell : (CronFields.mk minute hour day month weekday).Spell expression :=
        CronFields.spell_iff.mpr ⟨hwords, hletters⟩
      exact ⟨_, hspell, fun f' h' => h'.eq hspell⟩
  · rintro ⟨f, h, -⟩
    obtain ⟨hwords, hletters⟩ := CronFields.spell_iff.mp h
    rw [hwords]
    exact ⟨rfl, hletters⟩

end PortfolioReports
