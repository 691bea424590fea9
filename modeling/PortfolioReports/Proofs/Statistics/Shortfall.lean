import Mathlib.Algebra.Order.Field.Basic
import PortfolioReports.Proofs.Statistics.Comparison

/-!
Percentages are taken of the median as it is, not of its magnitude, so a negative median turns the signs.
-/

namespace PortfolioReports

open Scalar

variable {part base v : ℚ}

def SameSign (x y : ℚ) : Prop := (0 < x ↔ 0 < y) ∧ (x < 0 ↔ y < 0)

theorem percentOf_eq (part base : ℚ) : percentOf part base = part / base * 100 := by
  rw [percentOf, same_rat]
  by_cases h : base = 0 <;> simp [h]

theorem sameSign_percentOf (h : 0 < base) (part : ℚ) : SameSign (percentOf part base) part := by
  rw [percentOf_eq, SameSign, div_mul_eq_mul_div, lt_div_iff₀ h, div_lt_iff₀ h, zero_mul]
  constructor <;> constructor <;> intro hsign <;> linarith

theorem percentOf_pos_of_neg (hbase : base < 0) (hpart : part < 0) : 0 < percentOf part base := by
  rw [percentOf_eq]
  exact mul_pos (div_pos_of_neg_of_neg hpart hbase) (by norm_num)

theorem percentOf_neg_of_pos (hbase : base < 0) (hpart : 0 < part) : percentOf part base < 0 := by
  rw [percentOf_eq]
  exact mul_neg_of_neg_of_pos (div_neg_of_pos_of_neg hpart hbase) (by norm_num)

theorem sameSign_percentOf_iff (hbase : base < 0) : SameSign (percentOf part base) part ↔ part = 0 := by
  constructor
  · intro h
    rcases lt_trichotomy part 0 with hneg | hzero | hpos
    · exact absurd (h.1.mp (percentOf_pos_of_neg hbase hneg)) hneg.not_gt
    · exact hzero
    · exact absurd (h.2.mp (percentOf_neg_of_pos hbase hpos)) hpos.not_gt
  · rintro rfl
    rw [percentOf_eq, zero_div, zero_mul]
    exact ⟨Iff.rfl, Iff.rfl⟩

theorem lt_percentOf_iff (h : 0 < base) (c part : ℚ) : c < percentOf part base ↔ c / 100 * |base| < part := by
  rw [percentOf_eq, abs_of_pos h, div_mul_eq_mul_div, lt_div_iff₀ h]
  constructor <;> intro hlt <;> linarith

namespace Gap

theorem priorityOf_iff (x : ℚ) :
    (priorityOf x = .high ↔ 30 < x) ∧ (priorityOf x = .medium ↔ 15 < x ∧ x ≤ 30) ∧ (priorityOf x = .low ↔ x ≤ 15) := by
  have hpriority : priorityOf x = if 30 < x then .high else if 15 < x then .medium else .low := by
    simp [priorityOf, Scalar.lt]
  by_cases hhigh : 30 < x
  · have hmedium : 15 < x := by linarith
    simp [hpriority, hhigh, hmedium]
  by_cases hmedium : 15 < x
  · simp [hpriority, hhigh, hmedium, not_lt.mp hhigh]
  · simp [hpriority, hhigh, hmedium, not_lt.mp hmedium]

end Gap

/-- Differences and gaps show in percent as what they are, and gaps are as urgent as they are large. -/
structure Comparison.ShowsShortfalls (c : Comparison ℚ) : Prop where
  differences : ∀ e ∈ c.comparisons, e.spread.p50 ≠ 0 → SameSign e.differencePercent e.difference
  gaps : ∀ g ∈ c.gaps, g.target ≠ 0 → 0 < g.gapPercent
  high : ∀ g ∈ c.gaps, g.target ≠ 0 → (g.priority = .high ↔ 30 / 100 * |g.target| < g.gap)
  medium : ∀ g ∈ c.gaps, g.target ≠ 0 →
    (g.priority = .medium ↔ 15 / 100 * |g.target| < g.gap ∧ g.gap ≤ 30 / 100 * |g.target|)

namespace Comparison

variable {project benchmark : Uuid} {metrics : List (String × ℚ)} {b : List (BenchmarkMetric ℚ)} {m : BenchmarkMetric ℚ}

theorem mem_comparisons_iff {e : MetricComparison ℚ} : e ∈ (of project benchmark metrics b).comparisons ↔
    ∃ m ∈ b, ∃ v, metrics.lookup m.metric = some v ∧ e = MetricComparison.of m v := by
  rw [of, List.mem_map]
  constructor
  · rintro ⟨p, hp, rfl⟩
    obtain ⟨hm, hv⟩ := mem_shared_iff.mp hp
    exact ⟨p.1, hm, p.2, hv, rfl⟩
  · rintro ⟨m, hm, v, hv, rfl⟩
    exact ⟨(m, v), mem_shared_iff.mpr ⟨hm, hv⟩, rfl⟩

theorem mem_gaps_iff {g : Gap ℚ} : g ∈ (of project benchmark metrics b).gaps ↔
    ∃ m ∈ b, ∃ v, metrics.lookup m.metric = some v ∧ m.spread.level v = .below ∧ g = Gap.of m v := by
  simp only [of, List.mem_map, List.mem_filter, decide_eq_true_eq]
  constructor
  · rintro ⟨p, ⟨hp, hbelow⟩, rfl⟩
    obtain ⟨hm, hv⟩ := mem_shared_iff.mp hp
    exact ⟨p.1, hm, p.2, hv, hbelow, rfl⟩
  · rintro ⟨m, hm, v, hv, hbelow, rfl⟩
    exact ⟨(m, v), ⟨mem_shared_iff.mpr ⟨hm, hv⟩, hbelow⟩, rfl⟩

theorem gap_pos (hordered : m.spread.anchors.IsChain (· ≤ ·)) (hbelow : m.spread.level v = .below) :
    0 < (Gap.of m v).gap := by
  simp only [Spread.anchors, List.isChain_cons_cons] at hordered
  obtain ⟨-, hlower, hupper, -⟩ := hordered
  have hv : v < m.spread.p25 := not_le.mp ((Spread.level_iff hlower hupper v).2.2.2.mp hbelow)
  exact sub_pos.mpr (hv.trans_le hlower)

theorem gap_of_target_neg (hmedian : m.spread.p50 < 0) (hgap : 0 < (Gap.of m v).gap) :
    (Gap.of m v).gapPercent < 0 ∧ (Gap.of m v).priority = .low := by
  have hpercent : (Gap.of m v).gapPercent < 0 := percentOf_neg_of_pos hmedian hgap
  exact ⟨hpercent, (Gap.priorityOf_iff (Gap.of m v).gapPercent).2.2.mpr (by linarith)⟩

theorem showsShortfalls_of_forall (hordered : ∀ m ∈ b, m.spread.anchors.IsChain (· ≤ ·))
    (h : ∀ m ∈ b, ∀ v, metrics.lookup m.metric = some v → m.spread.p50 < 0 → v = m.spread.p50) :
    (of project benchmark metrics b).ShowsShortfalls := by
  have hdifferences : ∀ e ∈ (of project benchmark metrics b).comparisons, e.spread.p50 ≠ 0 →
      SameSign e.differencePercent e.difference := by
    intro e he hne
    obtain ⟨m, hm, v, hv, rfl⟩ := mem_comparisons_iff.mp he
    rcases lt_or_gt_of_ne hne with hneg | hpos
    · exact (sameSign_percentOf_iff hneg).mpr (sub_eq_zero.mpr (h m hm v hv hneg))
    · exact sameSign_percentOf hpos _
  have htargets : ∀ g ∈ (of project benchmark metrics b).gaps, g.target ≠ 0 → 0 < g.target ∧ 0 < g.gap ∧
      g.gapPercent = percentOf g.gap g.target ∧ g.priority = Gap.priorityOf g.gapPercent := by
    intro g hg hne
    obtain ⟨m, hm, v, hv, hbelow, rfl⟩ := mem_gaps_iff.mp hg
    have hgap := gap_pos (hordered m hm) hbelow
    refine ⟨lt_of_le_of_ne (not_lt.mp fun hneg => ?_) hne.symm, hgap, rfl, rfl⟩
    exact hgap.ne' (sub_eq_zero.mpr (h m hm v hv hneg).symm)
  refine ⟨hdifferences, fun g hg hne => ?_, fun g hg hne => ?_, fun g hg hne => ?_⟩
  all_goals obtain ⟨htarget, hgap, hpercent, hpriority⟩ := htargets g hg hne
  · rw [hpercent]
    exact (sameSign_percentOf htarget _).1.mpr hgap
  · rw [hpriority, (Gap.priorityOf_iff _).1, hpercent, lt_percentOf_iff htarget]
  · rw [hpriority, (Gap.priorityOf_iff _).2.1, hpercent, lt_percentOf_iff htarget, ← not_lt, ← not_lt,
      lt_percentOf_iff htarget]

/-- A comparison shows its shortfalls if and only if each project value with a negative median is that median. -/
theorem showsShortfalls_iff (project benchmark : Uuid) (metrics : List (String × ℚ)) (b : List (BenchmarkMetric ℚ))
    (hordered : ∀ m ∈ b, m.spread.anchors.IsChain (· ≤ ·)) :
    ((of project benchmark metrics b).ShowsShortfalls ↔
        ∀ m ∈ b, ∀ v, metrics.lookup m.metric = some v → m.spread.p50 < 0 → v = m.spread.p50) ∧
      ∀ g ∈ (of project benchmark metrics b).gaps, g.target < 0 → g.gapPercent < 0 ∧ g.priority = .low := by
  refine ⟨⟨fun hshows m hm v hv hneg => ?_, showsShortfalls_of_forall hordered⟩, fun g hg hneg => ?_⟩
  · have hsign := hshows.differences _ (mem_comparisons_iff.mpr ⟨m, hm, v, hv, rfl⟩) hneg.ne
    exact sub_eq_zero.mp ((sameSign_percentOf_iff hneg).mp hsign)
  · obtain ⟨m, hm, v, -, hbelow, rfl⟩ := mem_gaps_iff.mp hg
    exact gap_of_target_neg hneg (gap_pos (hordered m hm) hbelow)

def netRevenue : BenchmarkMetric ℚ := ⟨"net_revenue", -10, "USD", ⟨-20, -10, -5, -2, -50, 0⟩, 12⟩

theorem netRevenue_timber_isChain : ∀ m ∈ [netRevenue, upToFifty "timber"], m.spread.anchors.IsChain (· ≤ ·) := by
  norm_num [netRevenue, upToFifty, Spread.anchors]

theorem showsShortfalls_iff_atMedian :
    (∀ m ∈ [netRevenue, upToFifty "timber"], m.spread.anchors.IsChain (· ≤ ·)) ∧
      (of .nil .nil [("net_revenue", -10), ("timber", 5)] [netRevenue, upToFifty "timber"]).ShowsShortfalls := by
  refine ⟨netRevenue_timber_isChain, (showsShortfalls_iff .nil .nil _ _ netRevenue_timber_isChain).1.mpr ?_⟩
  intro m hm v hv hneg
  rcases List.mem_cons.mp hm with rfl | hm
  · have hvalue : List.lookup "net_revenue" [("net_revenue", (-10 : ℚ)), ("timber", 5)] = some (-10) := rfl
    exact Option.some.inj (hv.symm.trans hvalue)
  · cases List.mem_singleton.mp hm
    norm_num [upToFifty] at hneg

theorem netRevenue_shortfall_turned : netRevenue.spread.anchors.IsChain (· ≤ ·) ∧
    Gap.of netRevenue (-40) ∈ (of .nil .nil [("net_revenue", -40)] [netRevenue]).gaps ∧
    (Gap.of netRevenue (-40)).gap = 30 ∧ (Gap.of netRevenue (-40)).target = -10 ∧
    (Gap.of netRevenue (-40)).gapPercent = -300 ∧ (Gap.of netRevenue (-40)).priority = .low ∧
    ¬(of .nil .nil [("net_revenue", -40)] [netRevenue]).ShowsShortfalls := by
  have hgap : Gap.of netRevenue (-40) ∈ (of .nil .nil [("net_revenue", -40)] [netRevenue]).gaps :=
    mem_gaps_iff.mpr ⟨netRevenue, List.mem_singleton_self _, -40, rfl, by decide +kernel, rfl⟩
  have hpercent : (Gap.of netRevenue (-40)).gapPercent = -300 := by decide +kernel
  refine ⟨?_, hgap, by decide +kernel, rfl, hpercent, by decide +kernel, fun hshows => ?_⟩
  · norm_num [netRevenue, Spread.anchors]
  · have hpos := hshows.gaps _ hgap (by decide +kernel)
    rw [hpercent] at hpos
    norm_num at hpos

end Comparison

end PortfolioReports
