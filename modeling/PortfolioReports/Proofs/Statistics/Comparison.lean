import Mathlib.Algebra.Order.BigOperators.Group.List
import Mathlib.Data.List.Forall2
import Mathlib.Data.List.Perm.Basic
import PortfolioReports.Proofs.Json.SortedEntries
import PortfolioReports.Proofs.Numeric.Difference
import PortfolioReports.Proofs.Statistics.Rank
import PortfolioReports.Statistics.Comparison

namespace PortfolioReports

def Scalar.Opposite {α : Type} [Scalar α] (x y : α) : Prop := y = -x ∨ x = Scalar.zero ∧ y = Scalar.zero

theorem Scalar.opposite_float (x y : Float) : Scalar.Opposite (x - y) (y - x) := Numeric.sub_eq_neg_sub x y

theorem Scalar.opposite_rat (x y : ℚ) : Scalar.Opposite (x - y) (y - x) := .inl (neg_sub x y).symm

namespace Comparison

variable {α : Type} {metrics : List (String × α)} {b b' : List (BenchmarkMetric α)}

theorem mem_shared_iff {p : BenchmarkMetric α × α} :
    p ∈ shared metrics b ↔ p.1 ∈ b ∧ metrics.lookup p.1.metric = some p.2 := by
  simp only [shared, List.mem_filterMap, Option.map_eq_some_iff]
  constructor
  · rintro ⟨m, hm, v, hv, rfl⟩
    exact ⟨hm, hv⟩
  · rintro ⟨hm, hv⟩
    exact ⟨p.1, hm, p.2, hv, rfl⟩

theorem map_fst_shared (metrics : List (String × α)) (b : List (BenchmarkMetric α)) :
    (shared metrics b).map Prod.fst = b.filter fun m => (metrics.lookup m.metric).isSome := by
  induction b with
  | nil => rfl
  | cons m b ih =>
    rw [shared, List.filterMap_cons]
    cases hv : metrics.lookup m.metric with
    | none => rw [List.filter_cons_of_neg (by simp [hv])]; exact ih
    | some v => rw [List.filter_cons_of_pos (by simp [hv])]; exact congrArg (m :: ·) ih

theorem nodup_shared (h : (b.map BenchmarkMetric.metric).Nodup) :
    ((shared metrics b).map fun p => p.1.metric).Nodup := by
  have hsub : ((shared metrics b).map fun p => p.1.metric).Sublist (b.map BenchmarkMetric.metric) := by
    have hmap : (shared metrics b).map (fun p => p.1.metric) =
        ((shared metrics b).map Prod.fst).map BenchmarkMetric.metric := by rw [List.map_map]; rfl
    rw [hmap, map_fst_shared]
    exact List.filter_sublist.map _
  exact hsub.nodup h

variable [Scalar α]

/-- What a comparison says of one metric of the benchmark. -/
structure ComparesTo (metrics : List (String × α)) (m : BenchmarkMetric α) (e : MetricComparison α) : Prop where
  metric : e.metric = m.metric
  value : metrics.lookup m.metric = some e.value
  spread : e.spread = m.spread
  level : e.level = m.spread.level e.value

structure Mirrors (e : MetricComparison α) (g : Gap α) : Prop where
  metric : g.metric = e.metric
  current : g.current = e.value
  target : g.target = e.spread.p50
  gap : Scalar.Opposite e.difference g.gap

def levels (c : Comparison α) (l : PerformanceLevel) : ℕ := c.comparisons.countP fun e => e.level = l

def urgent (c : Comparison α) : ℕ := c.gaps.countP fun g => g.priority = .high

structure IsConsistent (c : Comparison α) (metrics : List (String × α)) (b : List (BenchmarkMetric α)) : Prop where
  comparisons : List.Forall₂ (ComparesTo metrics) (b.filter fun m => (metrics.lookup m.metric).isSome) c.comparisons
  gaps : List.Forall₂ Mirrors (c.comparisons.filter fun e => e.level = .below) c.gaps
  rankedOnce : (c.ranks.map Prod.fst).Pairwise (· < ·)
  ranked : ∀ name, name ∈ c.ranks.map Prod.fst ↔ name ∈ c.comparisons.map MetricComparison.metric
  summary : c.summary = s!"Overall performance score: {Scalar.fixed 1 c.score}%. " ++
    counted (c.levels .excellent) " metrics in top quartile. " ++
    counted (c.levels .above) " metrics above median. " ++
    counted (c.levels .below) " metrics require attention. " ++
    counted c.urgent " high-priority improvement areas identified."

structure SameFindings (c c' : Comparison α) : Prop where
  ranks : c'.ranks = c.ranks
  score : c'.score = c.score
  label : c'.label = c.label
  summary : c'.summary = c.summary
  comparisons : c'.comparisons.Perm c.comparisons
  gaps : c'.gaps.Perm c.gaps

theorem forall₂_comparisons (metrics : List (String × α)) (b : List (BenchmarkMetric α)) :
    List.Forall₂ (ComparesTo metrics) (b.filter fun m => (metrics.lookup m.metric).isSome)
      ((shared metrics b).map fun p => MetricComparison.of p.1 p.2) := by
  rw [← map_fst_shared, List.forall₂_map_left_iff, List.forall₂_map_right_iff, List.forall₂_same]
  exact fun p hp => ⟨rfl, (mem_shared_iff.mp hp).2, rfl, rfl⟩

theorem forall₂_gaps (hopposite : ∀ x y : α, Scalar.Opposite (x - y) (y - x))
    (both : List (BenchmarkMetric α × α)) :
    List.Forall₂ Mirrors ((both.map fun p => MetricComparison.of p.1 p.2).filter fun e => e.level = .below)
      ((both.filter fun p => p.1.spread.level p.2 = .below).map fun p => Gap.of p.1 p.2) := by
  rw [List.filter_map, List.forall₂_map_left_iff, List.forall₂_map_right_iff]
  exact List.forall₂_same.mpr fun p _ => ⟨rfl, rfl, rfl, hopposite _ _⟩

theorem of_isConsistent (hopposite : ∀ x y : α, Scalar.Opposite (x - y) (y - x)) (project benchmark : Uuid)
    (metrics : List (String × α)) (b : List (BenchmarkMetric α)) :
    (of project benchmark metrics b).IsConsistent metrics b where
  comparisons := forall₂_comparisons metrics b
  gaps := forall₂_gaps hopposite _
  rankedOnce := pairwise_sortEntries _
  ranked name := by
    have hnames : ((shared metrics b).map fun p => (p.1.metric, p.1.spread.percentileRank p.2)).map Prod.fst =
        ((shared metrics b).map fun p => MetricComparison.of p.1 p.2).map MetricComparison.metric := by
      rw [List.map_map, List.map_map]
      rfl
    exact mem_keys_sortEntries.trans (hnames ▸ Iff.rfl)
  summary := rfl

theorem summarize_eq_of_perm {comparisons comparisons' : List (MetricComparison α)} {gaps gaps' : List (Gap α)}
    (hcomparisons : comparisons'.Perm comparisons) (hgaps : gaps'.Perm gaps) (score : α) :
    summarize comparisons' gaps' score = summarize comparisons gaps score := by
  have hlevel : ∀ l : PerformanceLevel, comparisons'.countP (fun e => decide (e.level = l)) =
      comparisons.countP fun e => decide (e.level = l) := fun _ => hcomparisons.countP_eq _
  have hurgent : gaps'.countP (fun g => decide (g.priority = .high)) =
      gaps.countP fun g => decide (g.priority = .high) := hgaps.countP_eq _
  unfold summarize
  rw [hurgent]
  simp only [hlevel]

theorem of_sameFindings (hnames : (b.map BenchmarkMetric.metric).Nodup) (hperm : b'.Perm b)
    (project benchmark : Uuid) (metrics : List (String × α)) :
    SameFindings (of project benchmark metrics b) (of project benchmark metrics b') := by
  have hshared : (shared metrics b').Perm (shared metrics b) := hperm.filterMap _
  have hkeys : (((shared metrics b).map fun p => (p.1.metric, p.1.spread.percentileRank p.2)).map Prod.fst).Nodup := by
    rw [List.map_map]
    exact nodup_shared hnames
  have hranks : (of project benchmark metrics b').ranks = (of project benchmark metrics b).ranks :=
    sortEntries_eq_of_perm hkeys (hshared.map _)
  have hscore : (of project benchmark metrics b').score = (of project benchmark metrics b).score :=
    congrArg scoreOf hranks
  have hcomparisons : (of project benchmark metrics b').comparisons.Perm (of project benchmark metrics b).comparisons :=
    hshared.map _
  have hgaps : (of project benchmark metrics b').gaps.Perm (of project benchmark metrics b).gaps :=
    (hshared.filter _).map _
  refine ⟨hranks, hscore, congrArg labelOf hscore, ?_, hcomparisons, hgaps⟩
  exact (summarize_eq_of_perm hcomparisons hgaps _).trans (congrArg _ hscore)

theorem sum_rat (l : List ℚ) : Scalar.sum l = l.sum := List.sum_eq_foldl.symm

theorem scoreOf_bounds {ranks : List (String × ℚ)} (h : ∀ e ∈ ranks, 0 ≤ e.2 ∧ e.2 ≤ 100) :
    0 ≤ scoreOf ranks ∧ scoreOf ranks ≤ 100 := by
  rw [scoreOf, sum_rat, Scalar.whole_rat]
  split
  · exact ⟨le_rfl, by norm_num⟩
  · rename_i hne
    have hpos : (0 : ℚ) < ranks.length := by
      rw [Nat.cast_pos, List.length_pos_iff]
      simpa using hne
    have hlow : ∀ x ∈ ranks.map Prod.snd, 0 ≤ x := List.forall_mem_map.mpr fun e he => (h e he).1
    have hhigh : ∀ x ∈ ranks.map Prod.snd, x ≤ 100 := List.forall_mem_map.mpr fun e he => (h e he).2
    have hsum := List.sum_le_card_nsmul _ _ hhigh
    rw [List.length_map, nsmul_eq_mul] at hsum
    exact ⟨div_nonneg (List.sum_nonneg hlow) hpos.le, (div_le_iff₀ hpos).mpr (by linarith)⟩

theorem of_score_bounds (project benchmark : Uuid) (metrics : List (String × ℚ)) (b : List (BenchmarkMetric ℚ)) :
    0 ≤ (of project benchmark metrics b).score ∧ (of project benchmark metrics b).score ≤ 100 := by
  refine scoreOf_bounds fun e he => ?_
  obtain ⟨p, -, rfl⟩ := List.mem_map.mp (mem_of_mem_sortEntries he)
  exact ⟨p.1.spread.percentileRank_nonneg p.2, p.1.spread.percentileRank_le_hundred p.2⟩

/-- The parts of a comparison agree with each other, and if the names of the metrics are all different, their order shows
in the order of the lists alone. Where nothing is rounded, the score lies between 0 and 100. -/
theorem isConsistent_inAnyOrder (project : Uuid) :
    (∀ (metrics : List (String × Float)) (b : Benchmark),
        (withBenchmark project metrics b).IsConsistent metrics b.metrics ∧
          ∀ ms, ms.Perm b.metrics → (b.metrics.map BenchmarkMetric.metric).Nodup →
            SameFindings (withBenchmark project metrics b) (withBenchmark project metrics { b with metrics := ms })) ∧
      ∀ (benchmark : Uuid) (metrics : List (String × ℚ)) (b : List (BenchmarkMetric ℚ)),
        (of project benchmark metrics b).IsConsistent metrics b ∧
          (∀ b', b'.Perm b → (b.map BenchmarkMetric.metric).Nodup →
            SameFindings (of project benchmark metrics b) (of project benchmark metrics b')) ∧
          0 ≤ (of project benchmark metrics b).score ∧ (of project benchmark metrics b).score ≤ 100 := by
  refine ⟨fun metrics b => ⟨of_isConsistent Scalar.opposite_float .., fun ms hperm hnames => ?_⟩,
    fun benchmark metrics b => ⟨of_isConsistent Scalar.opposite_rat .., fun b' hperm hnames => ?_, ?_⟩⟩
  · exact of_sameFindings hnames hperm project b.id metrics
  · exact of_sameFindings hnames hperm project benchmark metrics
  · exact of_score_bounds project benchmark metrics b

def upToFifty (metric : String) : BenchmarkMetric ℚ := ⟨metric, 20, "t", ⟨10, 20, 30, 40, 0, 50⟩, 40⟩

def timberAndYield : List (String × ℚ) := [("timber", 25), ("yield", 5)]

theorem isConsistent_inAnyOrder_swapped :
    [upToFifty "yield", upToFifty "fuel", upToFifty "timber"].Perm
        [upToFifty "timber", upToFifty "yield", upToFifty "fuel"] ∧
      ([upToFifty "timber", upToFifty "yield", upToFifty "fuel"].map BenchmarkMetric.metric).Nodup ∧
      (of .nil .nil timberAndYield [upToFifty "yield", upToFifty "fuel", upToFifty "timber"]).score = 75 / 2 ∧
      (of .nil .nil timberAndYield [upToFifty "yield", upToFifty "fuel", upToFifty "timber"]).summary =
        "Overall performance score: 37.5%. 1 metrics above median. 1 metrics require attention. " ++
          "1 high-priority improvement areas identified." := by
  have hperm : [upToFifty "yield", upToFifty "fuel", upToFifty "timber"].Perm
      [upToFifty "timber", upToFifty "yield", upToFifty "fuel"] :=
    List.perm_append_singleton (upToFifty "timber") [upToFifty "yield", upToFifty "fuel"]
  have hnames : ([upToFifty "timber", upToFifty "yield", upToFifty "fuel"].map BenchmarkMetric.metric).Nodup := by
    decide
  have hsame := ((isConsistent_inAnyOrder .nil).2 .nil timberAndYield _).2.1 _ hperm hnames
  refine ⟨hperm, hnames, hsame.score.trans ?_, hsame.summary.trans ?_⟩
  · decide +kernel
  · decide +kernel

end Comparison

end PortfolioReports
