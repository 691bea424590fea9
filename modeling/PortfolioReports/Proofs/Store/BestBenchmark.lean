import PortfolioReports.Proofs.Store.Order
import PortfolioReports.Proofs.Store.ReadBack

namespace PortfolioReports

open Stored

namespace BenchmarkQuery

/-- An empty text and a year that is not positive do not narrow a query. -/
structure Admits (q : BenchmarkQuery) (r : BenchmarkRow) : Prop where
  active : r.isActive = true
  category : r.category = q.category
  methodology : ∀ text, q.methodology? = some text → text ≠ "" → r.methodology? = some text
  region : ∀ text, q.region? = some text → text ≠ "" → r.region? = some text
  year : ∀ y, q.year? = some y → 0 < y → r.year = y

structure Widens (wide q : BenchmarkQuery) : Prop where
  category : wide.category = q.category
  methodology : wide.methodology? = q.methodology? ∨ ∀ text, wide.methodology? = some text → text = ""
  region : wide.region? = q.region? ∨ ∀ text, wide.region? = some text → text = ""
  year : wide.year? = q.year? ∨ ∀ y, wide.year? = some y → ¬0 < y

def concerns (q : BenchmarkQuery) (r : BenchmarkRow) : Bool := r.isActive && r.category == q.category

theorem all_filter_iff {α : Type} {o : Option α} {given fits : α → Bool} :
    ((o.filter given).all fits = true) ↔ ∀ x, o = some x → given x = true → fits x = true := by
  cases o with
  | none => simp
  | some x =>
    by_cases hx : given x = true
    · simp [Option.filter_some_pos hx, hx]
    · simp [hx]

variable {q wide : BenchmarkQuery} {r : BenchmarkRow}

theorem passes_filter_iff : r.passes q.filter = true ↔ q.Admits r := by
  simp only [BenchmarkRow.passes, filter, Bool.and_eq_true, all_filter_iff, Option.all_some, beq_iff_eq,
    Bool.not_eq_true', String.isEmpty_eq_false_iff, decide_eq_true_eq]
  constructor
  · rintro ⟨⟨⟨⟨hcategory, hmethodology⟩, hregion⟩, hyear⟩, hactive⟩
    exact ⟨hactive, hcategory, hmethodology, hregion, hyear⟩
  · intro h
    exact ⟨⟨⟨⟨h.category, h.methodology⟩, h.region⟩, h.year⟩, h.active⟩

theorem Admits.concerns (h : q.Admits r) : q.concerns r = true := by
  simp [BenchmarkQuery.concerns, h.active, h.category]

theorem Widens.admits (h : wide.Widens q) (hr : q.Admits r) : wide.Admits r := by
  refine ⟨hr.active, hr.category.trans h.category.symm, ?_, ?_, ?_⟩
  · intro text htext hne
    rcases h.methodology with hkept | hdropped
    · exact hr.methodology text (hkept ▸ htext) hne
    · exact absurd (hdropped text htext) hne
  · intro text htext hne
    rcases h.region with hkept | hdropped
    · exact hr.region text (hkept ▸ htext) hne
    · exact absurd (hdropped text htext) hne
  · intro y hy hpositive
    rcases h.year with hkept | hdropped
    · exact hr.year y (hkept ▸ hy) hpositive
    · exact absurd hpositive (hdropped y hy)

end BenchmarkQuery

theorem BenchmarkRow.mem_scan {f : BenchmarkFilter} {rows : List BenchmarkRow} {r : BenchmarkRow} :
    r ∈ scan f rows ↔ r ∈ rows := by
  unfold scan
  split
  · exact List.mem_mergeSort
  split
  · exact Iff.rfl
  split
  · exact List.mem_reverse.trans List.mem_mergeSort
  · exact List.mem_mergeSort

theorem BenchmarkRow.filter_scan (f : BenchmarkFilter) (keep : BenchmarkRow → Bool) (rows : List BenchmarkRow) :
    (scan f rows).filter keep = scan f (rows.filter keep) := by
  have hindexed := filter_mergeSort_place indexedBefore_iff keep rows
  simp only [scan, apply_ite (List.filter keep), List.filter_reverse, hindexed]

theorem BenchmarkRow.of_toBenchmark {r : BenchmarkRow} {x : Benchmark} (h : r.toBenchmark = .ok x) :
    x.year = r.year ∧ readTime 12 r.updatedAt = .ok x.updatedAt := by
  simp only [toBenchmark, bind_eq_ok_iff] at h
  obtain ⟨_, -, _, -, _, -, _, htime, h⟩ := h
  cases h
  exact ⟨rfl, htime⟩

namespace Store

variable {s s' : Store} {q : BenchmarkQuery} {r : BenchmarkRow}

theorem mem_matchingBenchmarks {f : BenchmarkFilter} :
    r ∈ s.matchingBenchmarks f ↔ r ∈ s.benchmarks ∧ r.passes f = true := by
  rw [matchingBenchmarks, List.mem_filter, BenchmarkRow.mem_scan]

theorem matchingBenchmarks_eq_scan (s : Store) (f : BenchmarkFilter) :
    s.matchingBenchmarks f = BenchmarkRow.scan f (s.benchmarks.filter (BenchmarkRow.passes f)) :=
  BenchmarkRow.filter_scan f _ s.benchmarks

def chosen? (s : Store) (q : BenchmarkQuery) : Option BenchmarkRow :=
  ((s.matchingBenchmarks q.filter).mergeSort BenchmarkRow.newerBefore).head?

theorem findBenchmark_of_chosen (h : s.chosen? q = some r) : s.findBenchmark q = r.toBenchmark.map some := by
  unfold findBenchmark
  rw [← chosen?, h]

theorem findBenchmark_of_chosen_none (h : s.chosen? q = none) : s.findBenchmark q = .ok none := by
  unfold findBenchmark
  rw [← chosen?, h]

theorem chosen?_eq_none_iff : s.chosen? q = none ↔ ∀ r ∈ s.benchmarks, ¬r.passes q.filter = true := by
  rw [chosen?, List.head?_eq_none_iff, List.eq_nil_iff_forall_not_mem]
  simp only [List.mem_mergeSort, mem_matchingBenchmarks, not_and]

theorem of_chosen? (h : s.chosen? q = some r) : r ∈ s.benchmarks ∧ r.passes q.filter = true ∧
    ∀ c ∈ s.benchmarks, c.passes q.filter = true → r.place ≤ c.place := by
  have hsorted := pairwise_mergeSort_place BenchmarkRow.newerBefore_iff (s.matchingBenchmarks q.filter)
  have hmem (c : BenchmarkRow) : c ∈ (s.matchingBenchmarks q.filter).mergeSort BenchmarkRow.newerBefore ↔
      c ∈ s.benchmarks ∧ c.passes q.filter = true := List.mem_mergeSort.trans mem_matchingBenchmarks
  obtain ⟨rest, hrows⟩ := List.head?_eq_some_iff.mp h
  rw [hrows] at hsorted hmem
  obtain ⟨hr, hpasses⟩ := (hmem r).mp List.mem_cons_self
  refine ⟨hr, hpasses, ?_⟩
  intro c hc hcpasses
  rcases List.mem_cons.mp ((hmem c).mpr ⟨hc, hcpasses⟩) with rfl | hrest
  · exact le_rfl
  · exact List.rel_of_pairwise_cons hsorted hrest

theorem map_some_ne_none {read : Except StoreFault Benchmark} : read.map some ≠ .ok none := by
  cases read with
  | error cause => exact nofun
  | ok b => exact nofun

theorem findBenchmark_eq_none_iff : s.findBenchmark q = .ok none ↔ s.chosen? q = none := by
  constructor
  · intro h
    cases hchosen : s.chosen? q with
    | none => rfl
    | some r =>
      rw [findBenchmark_of_chosen hchosen] at h
      exact absurd h map_some_ne_none
  · exact findBenchmark_of_chosen_none

theorem chosen_of_findBenchmark {b : Benchmark} (h : s.findBenchmark q = .ok (some b)) :
    ∃ r, s.chosen? q = some r ∧ r.toBenchmark = .ok b := by
  cases hchosen : s.chosen? q with
  | none =>
    rw [findBenchmark_of_chosen_none hchosen] at h
    cases h
  | some r =>
    rw [findBenchmark_of_chosen hchosen] at h
    refine ⟨r, rfl, ?_⟩
    cases hr : r.toBenchmark with
    | error cause => simp [hr, Except.map] at h
    | ok b' => simpa [hr, Except.map] using h

theorem year_le_of_place_le {c : BenchmarkRow} (h : r.place ≤ c.place) : c.year ≤ r.year :=
  Int32.le_iff_toInt_le.mpr (Prod.Lex.monotone_fst _ _ h)

theorem findBenchmark_congr (h : s'.benchmarks.filter q.concerns = s.benchmarks.filter q.concerns) :
    s'.findBenchmark q = s.findBenchmark q := by
  have hpasses (rows : List BenchmarkRow) :
      rows.filter (BenchmarkRow.passes q.filter) = (rows.filter q.concerns).filter (BenchmarkRow.passes q.filter) := by
    rw [List.filter_filter]
    refine List.filter_congr fun r _ => ?_
    rw [Bool.eq_iff_iff, Bool.and_eq_true, iff_self_and]
    exact fun hr => (BenchmarkQuery.passes_filter_iff.mp hr).concerns
  have hmatching : s'.matchingBenchmarks q.filter = s.matchingBenchmarks q.filter := by
    rw [matchingBenchmarks_eq_scan, matchingBenchmarks_eq_scan, hpasses, hpasses s.benchmarks, h]
  rw [findBenchmark, findBenchmark, hmatching]

theorem filter_concerns_insertBenchmark {b : Benchmark} (h : s.insertBenchmark b = .ok s')
    (hb : b.isActive = false ∨ b.category ≠ q.category) :
    s'.benchmarks.filter q.concerns = s.benchmarks.filter q.concerns := by
  have hout : ¬q.concerns (BenchmarkRow.ofBenchmark b) = true := by
    simp only [BenchmarkQuery.concerns, BenchmarkRow.ofBenchmark, Bool.and_eq_true, beq_iff_eq]
    rintro ⟨hactive, hcategory⟩
    rcases hb with hinactive | hother
    · exact Bool.false_ne_true (hinactive.symm.trans hactive)
    · exact hother hcategory
  unfold insertBenchmark at h
  split at h
  · cases h
  · cases h
    rw [List.filter_append, List.filter_cons_of_neg hout, List.filter_nil, List.append_nil]

/-- The answer to a query, told by the datasets of the store. Where the dataset that is chosen cannot be read, the
answer is the failure to read it. -/
structure PicksBest (s : Store) (q : BenchmarkQuery) : Prop where
  none_iff : s.findBenchmark q = .ok none ↔ ∀ r ∈ s.benchmarks, ¬q.Admits r
  latest : (∃ r ∈ s.benchmarks, q.Admits r) → ∃ r ∈ s.benchmarks, q.Admits r ∧
    (∀ c ∈ s.benchmarks, q.Admits c → c.year ≤ r.year) ∧ s.findBenchmark q = r.toBenchmark.map some
  found : ∀ b, s.findBenchmark q = .ok (some b) → ∃ r ∈ s.benchmarks, q.Admits r ∧ r.toBenchmark = .ok b ∧
    ∀ c ∈ s.benchmarks, q.Admits c → c.year ≤ b.year
  answers : (∀ r ∈ s.benchmarks, ∃ b, r.toBenchmark = .ok b) → ∃ b?, s.findBenchmark q = .ok b?
  unmoved : ∀ s' : Store, s'.benchmarks.filter q.concerns = s.benchmarks.filter q.concerns →
    s'.findBenchmark q = s.findBenchmark q
  inserted : ∀ b s', s.insertBenchmark b = .ok s' → b.isActive = false ∨ b.category ≠ q.category →
    s'.findBenchmark q = s.findBenchmark q
  widened : ∀ wide : BenchmarkQuery, wide.Widens q →
    (s.findBenchmark wide = .ok none → s.findBenchmark q = .ok none) ∧
    ∀ b wideb, s.findBenchmark q = .ok (some b) → s.findBenchmark wide = .ok (some wideb) → b.year ≤ wideb.year

theorem findBenchmark_eq_none_iff_admits : s.findBenchmark q = .ok none ↔ ∀ r ∈ s.benchmarks, ¬q.Admits r := by
  rw [findBenchmark_eq_none_iff, chosen?_eq_none_iff]
  simp only [BenchmarkQuery.passes_filter_iff]

theorem of_chosen?_admits (h : s.chosen? q = some r) : r ∈ s.benchmarks ∧ q.Admits r ∧
    ∀ c ∈ s.benchmarks, q.Admits c → c.year ≤ r.year := by
  obtain ⟨hr, hpasses, hplace⟩ := of_chosen? h
  refine ⟨hr, BenchmarkQuery.passes_filter_iff.mp hpasses, ?_⟩
  intro c hc hadmits
  exact year_le_of_place_le (hplace c hc (BenchmarkQuery.passes_filter_iff.mpr hadmits))

theorem admits_of_findBenchmark {b : Benchmark} (h : s.findBenchmark q = .ok (some b)) :
    ∃ r ∈ s.benchmarks, q.Admits r ∧ r.toBenchmark = .ok b ∧ ∀ c ∈ s.benchmarks, q.Admits c → c.year ≤ b.year := by
  obtain ⟨r, hchosen, hread⟩ := chosen_of_findBenchmark h
  obtain ⟨hr, hadmits, hyears⟩ := of_chosen?_admits hchosen
  have hyear : b.year = r.year := (BenchmarkRow.of_toBenchmark hread).1
  exact ⟨r, hr, hadmits, hread, hyear ▸ hyears⟩

theorem picksBest (s : Store) (q : BenchmarkQuery) : s.PicksBest q where
  none_iff := findBenchmark_eq_none_iff_admits
  latest := by
    rintro ⟨r, hr, hadmits⟩
    cases hchosen : s.chosen? q with
    | none => exact absurd hadmits (findBenchmark_eq_none_iff_admits.mp (findBenchmark_of_chosen_none hchosen) r hr)
    | some best =>
      obtain ⟨hbest, hadmits, hyears⟩ := of_chosen?_admits hchosen
      exact ⟨best, hbest, hadmits, hyears, findBenchmark_of_chosen hchosen⟩
  found _ := admits_of_findBenchmark
  answers := by
    intro hread
    cases hchosen : s.chosen? q with
    | none => exact ⟨none, findBenchmark_of_chosen_none hchosen⟩
    | some r =>
      obtain ⟨b, hb⟩ := hread r (of_chosen? hchosen).1
      exact ⟨some b, by rw [findBenchmark_of_chosen hchosen, hb]; rfl⟩
  unmoved _ := findBenchmark_congr
  inserted _ _ h hb := findBenchmark_congr (filter_concerns_insertBenchmark h hb)
  widened := by
    intro wide hwide
    constructor
    · rw [findBenchmark_eq_none_iff_admits, findBenchmark_eq_none_iff_admits]
      exact fun hnone r hr hadmits => hnone r hr (hwide.admits hadmits)
    · intro b wideb hfound hwidefound
      obtain ⟨r, hr, hadmits, hread, -⟩ := admits_of_findBenchmark hfound
      obtain ⟨-, -, -, -, hlatest⟩ := admits_of_findBenchmark hwidefound
      rw [(BenchmarkRow.of_toBenchmark hread).1]
      exact hlatest r hr (hwide.admits hadmits)

end Store

end PortfolioReports
