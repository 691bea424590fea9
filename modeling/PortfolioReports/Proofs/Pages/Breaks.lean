import Mathlib.Algebra.Order.Floor.Ring
import Mathlib.Data.Rat.Floor
import Mathlib.Tactic.Linarith
import PortfolioReports.Proofs.Numeric.Rational
import PortfolioReports.Proofs.Pages.Tables

/-!
A page is begun after the row that fills the one before, whether another row follows or not.
-/

namespace PortfolioReports

open Scalar

variable {α : Type}

def CarriesRow (page : List (Block α)) : Prop := ∃ i boxes, .dataRow i boxes ∈ page

theorem CarriesRow.append {page : List (Block α)} (h : CarriesRow page) (more : List (Block α)) :
    CarriesRow (page ++ more) := by
  obtain ⟨i, boxes, hrow⟩ := h
  exact ⟨i, boxes, List.mem_append_left more hrow⟩

theorem CarriesRow.filterMap_ne_nil {page : List (Block α)} (h : CarriesRow page) :
    page.filterMap Block.data? ≠ [] := by
  obtain ⟨i, boxes, hrow⟩ := h
  exact List.ne_nil_of_mem (List.mem_filterMap.mpr ⟨_, hrow, rfl⟩)

variable [Scalar α] {s : PageSetup α} {t : TableFrame α} {c : Canvas α} {y : α} {n : ℕ}

def rowsEnd (y : α) : ℕ → α
  | 0 => y
  | n + 1 => rowsEnd (y + dataRowHeight) n

namespace PageSetup

def isPastBreak (s : PageSetup α) (y : α) : Bool := lt (s.height - whole 20) y

/-- The least number of rows that, from here on, go past the line where pages are broken. -/
structure FillsPage (s : PageSetup α) (y : α) (n : ℕ) : Prop where
  pos : 0 < n
  past : s.isPastBreak (rowsEnd y n)
  least : ∀ k < n, 0 < k → ¬s.isPastBreak (rowsEnd y k)

instance : Decidable (s.FillsPage y n) :=
  decidable_of_iff (0 < n ∧ s.isPastBreak (rowsEnd y n) ∧ ∀ k < n, 0 < k → ¬s.isPastBreak (rowsEnd y k))
    ⟨fun h => ⟨h.1, h.2.1, h.2.2⟩, fun h => ⟨h.pos, h.past, h.least⟩⟩

/-- So many rows fill the first page of a table and any number of further ones, with no row left over. -/
def FillsPages (s : PageSetup α) (n : ℕ) : Prop :=
  ∃ first, s.FillsPage (s.begin.y + headerRowHeight) first ∧
    (n = first ∨ ∃ later, s.FillsPage (s.margins.top + headerRowHeight) later ∧ ∃ m, n = first + m * later)

def EndsFull (s : PageSetup α) : α → ℕ → Prop
  | _, 0 => False
  | y, n + 1 =>
    if s.isPastBreak (y + dataRowHeight) then n = 0 ∨ s.EndsFull (s.margins.top + headerRowHeight) n
    else s.EndsFull (y + dataRowHeight) n

theorem FillsPage.unique {m : ℕ} (h : s.FillsPage y n) (h' : s.FillsPage y m) : n = m := by
  rcases Nat.lt_trichotomy n m with hlt | heq | hgt
  · exact absurd h.past (h'.least n hlt h.pos)
  · exact heq
  · exact absurd h'.past (h.least m hgt h'.pos)

theorem rowsEnd_rat (y : ℚ) (n : ℕ) : rowsEnd y n = y + 7 * n := by
  induction n generalizing y with
  | zero => simp [rowsEnd]
  | succ n ih =>
    have hrow : (dataRowHeight : ℚ) = 7 := rfl
    rw [rowsEnd, ih, hrow]
    push_cast
    ring

theorem isPastBreak_rowsEnd_rat (s : PageSetup ℚ) (y : ℚ) {n : ℕ} (hn : n ≠ 0) :
    s.isPastBreak (rowsEnd y n) ↔ ⌊(s.height - 20 - y) / 7⌋₊ < n := by
  rw [Nat.floor_lt' hn, div_lt_iff₀ (by norm_num), rowsEnd_rat]
  change decide (s.height - 20 < y + 7 * n) = true ↔ _
  rw [decide_eq_true_iff]
  constructor <;> intro h <;> linarith

theorem fillsPage_rat_iff (s : PageSetup ℚ) (y : ℚ) (n : ℕ) :
    s.FillsPage y n ↔ n = ⌊(s.height - 20 - y) / 7⌋₊ + 1 := by
  have hrows : s.FillsPage y (⌊(s.height - 20 - y) / 7⌋₊ + 1) := by
    refine ⟨Nat.succ_pos _, (isPastBreak_rowsEnd_rat s y (Nat.succ_ne_zero _)).mpr (Nat.lt_succ_self _), ?_⟩
    intro k hlt hpos hpast
    exact absurd ((isPastBreak_rowsEnd_rat s y hpos.ne').mp hpast) (Nat.not_lt.mpr (Nat.le_of_lt_succ hlt))
  exact ⟨fun h => h.unique hrows, fun h => h ▸ hrows⟩

theorem fillsPage_of_past (h : s.isPastBreak (y + dataRowHeight)) : s.FillsPage y 1 :=
  ⟨Nat.one_pos, h, fun k hlt hpos => by omega⟩

theorem fillsPage_succ_iff (h : ¬s.isPastBreak (y + dataRowHeight)) :
    s.FillsPage y (n + 1) ↔ s.FillsPage (y + dataRowHeight) n := by
  constructor
  · intro hfills
    refine ⟨Nat.pos_of_ne_zero ?_, hfills.past, fun k hlt _ => ?_⟩
    · rintro rfl
      exact h hfills.past
    · exact hfills.least (k + 1) (Nat.succ_lt_succ hlt) k.succ_pos
  · intro hfills
    refine ⟨n.succ_pos, hfills.past, fun k hlt hpos => ?_⟩
    obtain _ | _ | k := k
    · exact absurd hpos (Nat.lt_irrefl 0)
    · exact h
    · exact hfills.least (k + 1) (Nat.lt_of_succ_lt_succ hlt) k.succ_pos

theorem endsFull_iff : s.EndsFull y n ↔ ∃ first, s.FillsPage y first ∧
    (n = first ∨ ∃ rest, n = first + rest ∧ s.EndsFull (s.margins.top + headerRowHeight) rest) := by
  induction n generalizing y with
  | zero =>
    refine ⟨False.elim, fun ⟨first, hfirst, hn⟩ => ?_⟩
    have hpos := hfirst.pos
    rcases hn with hn | ⟨rest, hn, -⟩ <;> omega
  | succ n ih =>
    rw [EndsFull]
    split
    · rename_i hpast
      have hone := fillsPage_of_past hpast
      constructor
      · rintro (rfl | hrest)
        · exact ⟨1, hone, .inl rfl⟩
        · exact ⟨1, hone, .inr ⟨n, Nat.add_comm n 1, hrest⟩⟩
      · rintro ⟨first, hfirst, hn⟩
        obtain rfl := hfirst.unique hone
        rcases hn with hn | ⟨rest, hn, hrest⟩
        · exact .inl (Nat.succ.inj hn)
        · obtain rfl : n = rest := by omega
          exact .inr hrest
    · rename_i hpast
      rw [ih]
      constructor
      · rintro ⟨first, hfirst, hn⟩
        refine ⟨first + 1, (fillsPage_succ_iff hpast).mpr hfirst, hn.imp (congrArg (· + 1)) ?_⟩
        rintro ⟨rest, rfl, hrest⟩
        exact ⟨rest, Nat.add_right_comm first rest 1, hrest⟩
      · rintro ⟨first, hfirst, hn⟩
        obtain ⟨first, rfl⟩ := Nat.exists_eq_succ_of_ne_zero (Nat.ne_of_gt hfirst.pos)
        refine ⟨first, (fillsPage_succ_iff hpast).mp hfirst, hn.imp Nat.succ.inj ?_⟩
        rintro ⟨rest, hn, hrest⟩
        exact ⟨rest, by omega, hrest⟩

theorem endsFull_top_iff : s.EndsFull (s.margins.top + headerRowHeight) n ↔
    ∃ later, s.FillsPage (s.margins.top + headerRowHeight) later ∧ ∃ m, n = later + m * later := by
  induction n using Nat.strongRecOn with
  | ind n ih =>
    rw [endsFull_iff]
    constructor
    · rintro ⟨later, hlater, rfl | ⟨rest, rfl, hrest⟩⟩
      · exact ⟨n, hlater, 0, by omega⟩
      · obtain ⟨later', hlater', m, rfl⟩ := (ih rest (Nat.lt_add_of_pos_left hlater.pos)).mp hrest
        obtain rfl := hlater.unique hlater'
        exact ⟨later, hlater, m + 1, by rw [Nat.succ_mul, Nat.add_comm (m * later)]⟩
    · rintro ⟨later, hlater, m, rfl⟩
      refine ⟨later, hlater, ?_⟩
      cases m with
      | zero => exact .inl (by omega)
      | succ m =>
        refine .inr ⟨(m + 1) * later, rfl, (ih _ (Nat.lt_add_of_pos_left hlater.pos)).mpr ⟨later, hlater, m, ?_⟩⟩
        rw [Nat.succ_mul, Nat.add_comm]

theorem fillsPages_iff : s.FillsPages n ↔ s.EndsFull (s.begin.y + headerRowHeight) n := by
  rw [endsFull_iff]
  simp only [endsFull_top_iff]
  constructor
  · rintro ⟨first, hfirst, rfl | ⟨later, hlater, m, rfl⟩⟩
    · exact ⟨n, hfirst, .inl rfl⟩
    · cases m with
      | zero => exact ⟨first, hfirst, .inl (by omega)⟩
      | succ m =>
        refine ⟨first, hfirst, .inr ⟨(m + 1) * later, rfl, later, hlater, m, ?_⟩⟩
        rw [Nat.succ_mul, Nat.add_comm]
  · rintro ⟨first, hfirst, rfl | ⟨rest, rfl, later, hlater, m, rfl⟩⟩
    · exact ⟨n, hfirst, .inl rfl⟩
    · refine ⟨first, hfirst, .inr ⟨later, hlater, m + 1, ?_⟩⟩
      rw [Nat.succ_mul, Nat.add_comm (m * later)]

end PageSetup

namespace Canvas

theorem dataRows_cons (s : PageSetup α) (t : TableFrame α) (c : Canvas α) (i : ℕ) (texts : List String)
    (rest : List (List String)) : dataRows s t c i (texts :: rest) =
      if s.isPastBreak (c.y + dataRowHeight) then
        dataRows s t (((c.dataRow s t i texts).turn s).headerRow s t) (i + 1) rest
      else dataRows s t (c.dataRow s t i texts) (i + 1) rest :=
  apply_ite (fun c => dataRows s t c (i + 1) rest) _ _ _

theorem carriesRow_dataRow (c : Canvas α) (s : PageSetup α) (t : TableFrame α) (i : ℕ) (texts : List String) :
    CarriesRow (c.dataRow s t i texts).current :=
  ⟨i, _, List.mem_append_right _ (List.mem_singleton_self _)⟩

theorem not_carriesRow_turn_headerRow : ¬CarriesRow ((c.turn s).headerRow s t).current := by
  rintro ⟨i, boxes, hrow⟩
  cases List.mem_singleton.mp hrow

theorem done_dataRows_carry (h : ∀ page ∈ c.done, CarriesRow page) (i : ℕ) (rows : List (List String)) :
    ∀ page ∈ (dataRows s t c i rows).done, CarriesRow page := by
  induction rows generalizing c i with
  | nil => exact h
  | cons texts rest ih =>
    rw [dataRows_cons]
    split
    · refine ih (List.forall_mem_append.mpr ⟨h, List.forall_mem_singleton.mpr ?_⟩) (i + 1)
      exact carriesRow_dataRow c s t i texts
    · exact ih (c := c.dataRow s t i texts) h (i + 1)

theorem done_dataRows_ne_nil (h : c.done ≠ []) (i : ℕ) (rows : List (List String)) :
    (dataRows s t c i rows).done ≠ [] := by
  induction rows generalizing c i with
  | nil => exact h
  | cons texts rest ih =>
    rw [dataRows_cons]
    split
    · exact ih (List.append_ne_nil_of_left_ne_nil h _) (i + 1)
    · exact ih (c := c.dataRow s t i texts) h (i + 1)

theorem current_dataRows_carries_iff (c : Canvas α) (i : ℕ) {rows : List (List String)} (hrows : rows ≠ []) :
    CarriesRow (dataRows s t c i rows).current ↔ ¬s.EndsFull c.y rows.length := by
  induction rows generalizing c i with
  | nil => exact absurd rfl hrows
  | cons texts rest ih =>
    rw [dataRows_cons, List.length_cons, PageSetup.EndsFull]
    split
    · by_cases hrest : rest = []
      · subst hrest
        exact iff_of_false not_carriesRow_turn_headerRow fun h => h (.inl rfl)
      · rw [ih _ (i + 1) hrest, not_or]
        exact (and_iff_right fun h => hrest (List.length_eq_zero_iff.mp h)).symm
    · by_cases hrest : rest = []
      · subst hrest
        exact iff_of_true (carriesRow_dataRow c s t i texts) id
      · exact ih _ (i + 1) hrest

theorem current_dataRows_carries_of_done (c : Canvas α) (i : ℕ) {rows : List (List String)} (hrows : rows ≠ [])
    (hdone : (dataRows s t c i rows).done = []) : CarriesRow (dataRows s t c i rows).current := by
  induction rows generalizing c i with
  | nil => exact absurd rfl hrows
  | cons texts rest ih =>
    rw [dataRows_cons] at hdone ⊢
    split
    · rename_i hpast
      rw [if_pos hpast] at hdone
      have hsome := List.append_ne_nil_of_right_ne_nil c.done (List.cons_ne_nil (c.dataRow s t i texts).current [])
      exact absurd hdone (done_dataRows_ne_nil hsome (i + 1) rest)
    · rename_i hpast
      rw [if_neg hpast] at hdone
      by_cases hrest : rest = []
      · subst hrest
        exact carriesRow_dataRow c s t i texts
      · exact ih _ (i + 1) hrest hdone

theorem later_dataRows_carry_iff (h : c.done = []) (i : ℕ) {rows : List (List String)} (hrows : rows ≠ []) :
    (∀ page ∈ (dataRows s t c i rows).pages.tail, CarriesRow page) ↔ ¬s.EndsFull c.y rows.length := by
  have hclosed := done_dataRows_carry (s := s) (t := t) (c := c) (by simp [h]) i rows
  rw [← current_dataRows_carries_iff (t := t) c i hrows, pages]
  cases hdone : (dataRows s t c i rows).done with
  | nil =>
    exact iff_of_true (fun _ hpage => absurd hpage List.not_mem_nil)
      (current_dataRows_carries_of_done c i hrows hdone)
  | cons first rest =>
    rw [hdone, List.forall_mem_cons] at hclosed
    rw [List.cons_append, List.tail_cons, List.forall_mem_append, List.forall_mem_singleton]
    exact and_iff_right hclosed.2

end Canvas

namespace PageSetup

theorem carriesRow_signed_iff {page : List (Block α)} (number total : ℕ) :
    CarriesRow (page ++ s.signature number total) ↔ CarriesRow page := by
  refine ⟨fun ⟨i, boxes, hrow⟩ => ?_, fun h => h.append _⟩
  rcases List.mem_append.mp hrow with hrow | hrow
  · exact ⟨i, boxes, hrow⟩
  · have hnone := List.filterMap_eq_nil_iff.mp (filterMap_signature (f := Block.data?) (fun _ => rfl) s number total)
    cases hnone _ hrow

theorem later_finish_carry_iff (s : PageSetup α) (c : Canvas α) :
    (∀ page ∈ (s.finish c).tail, CarriesRow page) ↔ ∀ page ∈ c.pages.tail, CarriesRow page := by
  rw [finish_eq, ← List.map_tail, List.tail_zipIdx, List.forall_mem_map]
  simp only [carriesRow_signed_iff]
  conv_rhs => rw [← List.zipIdx_map_fst (0 + 1) c.pages.tail, List.forall_mem_map]

/-- All pages after the first carry rows, unless the rows fill the first page and any number of further ones. -/
theorem laterPages_carryRow_iff (s : PageSetup α) {rows : List Row} {columns : List Column} (hrows : rows ≠ [])
    (hcolumns : Column.resolve columns rows ≠ []) :
    (∀ page ∈ (s.tablePages rows columns).tail, CarriesRow page) ↔ ¬s.FillsPages rows.length := by
  have hbegin : (s.begin.headerRow s ⟨(Column.resolve columns rows).map Column.label,
      columnWidths ((Column.resolve columns rows).map Column.label)
        (rows.map (Column.texts (Column.resolve columns rows))) s.printableWidth⟩).done = [] :=
    (Canvas.isLead_begin s).1
  rw [tablePages, later_finish_carry_iff, fillsPages_iff,
    ← List.length_map (Column.texts (Column.resolve columns rows))]
  unfold Canvas.table
  dsimp only
  rw [if_neg (by simpa using hcolumns)]
  exact Canvas.later_dataRows_carry_iff hbegin 0 (by simpa using hrows)

def fens (n : ℕ) : List Row := List.replicate n ⟨[("name", .text "Fen")]⟩

def nameColumn : List Column := [⟨"name", "Name"⟩]

theorem laterPages_carryRow_iff_oneMore : fens 23 ≠ [] ∧ Column.resolve nameColumn (fens 23) ≠ [] ∧
    ((standard : PageSetup Float).tablePages (fens 23) nameColumn).length = 2 ∧
    ∀ page ∈ ((standard : PageSetup Float).tablePages (fens 23) nameColumn).tail, CarriesRow page := by
  have hrows : fens 23 ≠ [] := List.cons_ne_nil _ _
  have hcolumns : Column.resolve nameColumn (fens 23) ≠ [] := by decide
  refine ⟨hrows, hcolumns, by decide +kernel, (laterPages_carryRow_iff standard hrows hcolumns).mpr ?_⟩
  have hfirst : (standard : PageSetup Float).FillsPage ((standard : PageSetup Float).begin.y + headerRowHeight) 22 := by
    decide +kernel
  have hlater : (standard : PageSetup Float).FillsPage
      ((standard : PageSetup Float).margins.top + headerRowHeight) 24 := by
    decide +kernel
  rintro ⟨first, hfills, hlength⟩
  obtain rfl := hfills.unique hfirst
  rcases hlength with hlength | ⟨later, hfills', m, hlength⟩
  · simp [fens] at hlength
  · obtain rfl := hfills'.unique hlater
    simp only [fens, List.length_replicate] at hlength
    omega

theorem filledPage_nextBare : fens 22 ≠ [] ∧ Column.resolve nameColumn (fens 22) ≠ [] ∧
    ((standard : PageSetup Float).tablePages (fens 22) nameColumn).length = 2 ∧
    ¬∀ page ∈ ((standard : PageSetup Float).tablePages (fens 22) nameColumn).tail, CarriesRow page := by
  refine ⟨List.cons_ne_nil _ _, by decide, by decide +kernel, fun hcarry => ?_⟩
  have hcounts : ((standard : PageSetup Float).tablePages (fens 22) nameColumn).tail.map
      (fun page => (page.filterMap Block.data?).length) = [0] := by
    decide +kernel
  have hpositive : ∀ k ∈ ((standard : PageSetup Float).tablePages (fens 22) nameColumn).tail.map
      (fun page => (page.filterMap Block.data?).length), 0 < k :=
    List.forall_mem_map.mpr fun page hpage => List.length_pos_iff.mpr (hcarry page hpage).filterMap_ne_nil
  rw [hcounts] at hpositive
  exact absurd (hpositive 0 (List.mem_singleton_self 0)) (Nat.lt_irrefl 0)

end PageSetup

end PortfolioReports
