import Mathlib.Order.Bounds.Basic
import Mathlib.Tactic.GCongr
import Mathlib.Tactic.NormNum
import Mathlib.Tactic.Positivity
import Mathlib.Tactic.Ring
import PortfolioReports.Proofs.Numeric.Rational
import PortfolioReports.Statistics.Rank

namespace PortfolioReports

def Anchor.map {α β : Type} (f : α → β) (a : Anchor α) : Anchor β := ⟨f a.rank, f a.value⟩

namespace Spread

variable {v w : ℚ} {lo hi a : Anchor ℚ} {rest : List (Anchor ℚ)}

theorem interpolate_of_lt (h : lo.value < hi.value) :
    interpolate v lo hi = lo.rank + (v - lo.value) / (hi.value - lo.value) * (hi.rank - lo.rank) := by
  rw [interpolate, Scalar.le_eq_false h]
  rfl

theorem interpolate_right (h : lo.value < hi.value) : interpolate hi.value lo hi = hi.rank := by
  have hspan : hi.value - lo.value ≠ 0 := (sub_pos.mpr h).ne'
  rw [interpolate_of_lt h, div_self hspan]
  ring

theorem interpolate_mono (h : lo.value < hi.value) (hrank : lo.rank ≤ hi.rank) (hvw : v ≤ w) :
    interpolate v lo hi ≤ interpolate w lo hi := by
  have hspan : 0 < hi.value - lo.value := sub_pos.mpr h
  have hrise : 0 ≤ hi.rank - lo.rank := sub_nonneg.mpr hrank
  rw [interpolate_of_lt h, interpolate_of_lt h]
  gcongr

theorem interpolate_le_rank (hv : v ≤ hi.value) (h : lo.value < hi.value) (hrank : lo.rank ≤ hi.rank) :
    interpolate v lo hi ≤ hi.rank :=
  calc interpolate v lo hi ≤ interpolate hi.value lo hi := interpolate_mono h hrank hv
    _ = hi.rank := interpolate_right h

theorem rank_le_interpolate (hv : lo.value ≤ v) (h : lo.value < hi.value) (hrank : lo.rank ≤ hi.rank) :
    lo.rank ≤ interpolate v lo hi := by
  have hspan : 0 < hi.value - lo.value := sub_pos.mpr h
  have hrise : 0 ≤ hi.rank - lo.rank := sub_nonneg.mpr hrank
  have hpart : 0 ≤ v - lo.value := sub_nonneg.mpr hv
  rw [interpolate_of_lt h]
  exact le_add_of_nonneg_right (by positivity)

theorem interpolate_lt_rank (hv : v < hi.value) (h : lo.value < hi.value) (hrank : lo.rank < hi.rank) :
    interpolate v lo hi < hi.rank := by
  have hspan : 0 < hi.value - lo.value := sub_pos.mpr h
  have hrise : 0 < hi.rank - lo.rank := sub_pos.mpr hrank
  rw [← interpolate_right h, interpolate_of_lt h, interpolate_of_lt h]
  gcongr

theorem rankAmong_of_le (h : v ≤ hi.value) : rankAmong v (lo :: hi :: rest) = interpolate v lo hi := by
  rw [rankAmong, if_pos (Scalar.le_eq_true h)]

theorem rankAmong_of_lt (h : hi.value < v) : rankAmong v (lo :: hi :: rest) = rankAmong v (hi :: rest) := by
  rw [rankAmong, Scalar.le_eq_false h]
  rfl

structure Rises (anchors : List (Anchor ℚ)) : Prop where
  ranks : anchors.Pairwise fun a b => a.rank < b.rank
  le_hundred : ∀ a ∈ anchors, a.rank ≤ 100

theorem Rises.tail (h : Rises (lo :: rest)) : Rises rest :=
  ⟨h.ranks.of_cons, fun a ha => h.le_hundred a (List.mem_cons_of_mem _ ha)⟩

theorem Rises.lt (h : Rises (lo :: rest)) (ha : a ∈ rest) : lo.rank < a.rank := List.rel_of_pairwise_cons h.ranks ha

theorem rank_le_rankAmong (h : Rises (lo :: rest)) (hv : lo.value < v) : lo.rank ≤ rankAmong v (lo :: rest) := by
  induction rest generalizing lo with
  | nil => exact h.le_hundred lo List.mem_cons_self
  | cons hi rest ih =>
    have hrank : lo.rank < hi.rank := h.lt List.mem_cons_self
    rcases le_or_gt v hi.value with hle | hlt
    · rw [rankAmong_of_le hle]
      exact rank_le_interpolate hv.le (hv.trans_le hle) hrank.le
    · rw [rankAmong_of_lt hlt]
      exact hrank.le.trans (ih h.tail hlt)

theorem rankAmong_le_hundred (h : Rises (lo :: rest)) (hv : lo.value < v) : rankAmong v (lo :: rest) ≤ 100 := by
  induction rest generalizing lo with
  | nil => exact le_rfl
  | cons hi rest ih =>
    rcases le_or_gt v hi.value with hle | hlt
    · have hrank : lo.rank < hi.rank := h.lt List.mem_cons_self
      rw [rankAmong_of_le hle]
      exact (interpolate_le_rank hle (hv.trans_le hle) hrank.le).trans (h.le_hundred hi (by simp))
    · rw [rankAmong_of_lt hlt]
      exact ih h.tail hlt

theorem rankAmong_mono (h : Rises (lo :: rest)) (hv : lo.value < v) (hvw : v ≤ w) :
    rankAmong v (lo :: rest) ≤ rankAmong w (lo :: rest) := by
  induction rest generalizing lo with
  | nil => exact le_rfl
  | cons hi rest ih =>
    have hrank : lo.rank < hi.rank := h.lt List.mem_cons_self
    rcases le_or_gt w hi.value with hw | hw
    · rw [rankAmong_of_le hw, rankAmong_of_le (hvw.trans hw)]
      exact interpolate_mono (hv.trans_le (hvw.trans hw)) hrank.le hvw
    rw [rankAmong_of_lt hw]
    rcases le_or_gt v hi.value with hle | hlt
    · rw [rankAmong_of_le hle]
      exact (interpolate_le_rank hle (hv.trans_le hle) hrank.le).trans (rank_le_rankAmong h.tail hw)
    · rw [rankAmong_of_lt hlt]
      exact ih h.tail hlt

/-- Past the anchors that lie below it, an anchor is reached exactly where its rank is. -/
theorem rank_le_rankAmong_iff {before after : List (Anchor ℚ)} (h : Rises (lo :: (before ++ a :: after)))
    (hbelow : ∀ b ∈ lo :: before, b.value < a.value) (hv : lo.value < v) :
    a.rank ≤ rankAmong v (lo :: (before ++ a :: after)) ↔ a.value ≤ v := by
  induction before generalizing lo with
  | nil =>
    have hspan : lo.value < a.value := hbelow lo List.mem_cons_self
    rcases lt_or_ge v a.value with hlt | hge
    · rw [List.nil_append, rankAmong_of_le hlt.le]
      exact iff_of_false (interpolate_lt_rank hlt hspan (h.lt (by simp))).not_ge hlt.not_ge
    · refine iff_of_true ?_ hge
      rcases hge.eq_or_lt with rfl | hlt
      · rw [List.nil_append, rankAmong_of_le le_rfl, interpolate_right hspan]
      · rw [List.nil_append, rankAmong_of_lt hlt]
        exact rank_le_rankAmong h.tail hlt
  | cons hi before ih =>
    rw [List.forall_mem_cons] at hbelow
    have hhi : hi.value < a.value := hbelow.2 hi List.mem_cons_self
    rcases le_or_gt v hi.value with hle | hlt
    · have hrank : lo.rank < hi.rank := h.lt (by simp)
      have hbefore : interpolate v lo hi < a.rank :=
        (interpolate_le_rank hle (hv.trans_le hle) hrank.le).trans_lt (h.tail.lt (by simp))
      rw [List.cons_append, rankAmong_of_le hle]
      exact iff_of_false hbefore.not_ge (hle.trans_lt hhi).not_ge
    · rw [List.cons_append, rankAmong_of_lt hlt]
      exact ih h.tail hbelow.2 hlt

theorem isLeast_rankAmong (h : Rises (lo :: rest)) (hvalues : (lo :: rest).Pairwise fun a b => a.value ≤ b.value)
    (ha : a ∈ rest) (hlo : lo.value < a.value) :
    IsLeast {r | ∃ b ∈ rest, a.value = b.value ∧ r = b.rank} (rankAmong a.value (lo :: rest)) := by
  induction rest generalizing lo with
  | nil => cases ha
  | cons hi rest ih =>
    have hle : hi.value ≤ a.value := by
      rcases List.mem_cons.mp ha with rfl | ha
      · exact le_rfl
      · exact List.rel_of_pairwise_cons hvalues.of_cons ha
    rcases hle.eq_or_lt with heq | hlt
    · rw [rankAmong_of_le heq.ge, ← heq, interpolate_right (heq ▸ hlo)]
      refine ⟨⟨hi, List.mem_cons_self, rfl, rfl⟩, ?_⟩
      rintro r ⟨b, hb, -, rfl⟩
      rcases List.mem_cons.mp hb with rfl | hb
      · exact le_rfl
      · exact (h.tail.lt hb).le
    · have hrest : a ∈ rest := by
        rcases List.mem_cons.mp ha with rfl | ha
        · exact absurd hlt (lt_irrefl _)
        · exact ha
      rw [rankAmong_of_lt hlt]
      have hsame : {r | ∃ b ∈ hi :: rest, a.value = b.value ∧ r = b.rank} =
          {r | ∃ b ∈ rest, a.value = b.value ∧ r = b.rank} := by
        ext r
        simp [hlt.ne']
      rw [hsame]
      exact ih h.tail hvalues.of_cons hrest hlt

theorem rises_ranked (s : Spread ℚ) : Rises s.ranked := by
  constructor
  · norm_num [ranked]
  · norm_num [ranked]

theorem pairwise_ranked {s : Spread ℚ} (h : s.anchors.IsChain (· ≤ ·)) :
    s.ranked.Pairwise fun a b => a.value ≤ b.value :=
  List.pairwise_map.mp (List.isChain_iff_pairwise.mp h)

theorem percentileRank_of_le_min {s : Spread ℚ} (h : v ≤ s.min) : s.percentileRank v = 0 := by
  rw [percentileRank, if_pos (Scalar.le_eq_true h)]
  rfl

theorem percentileRank_of_max_le {s : Spread ℚ} (hmin : s.min < v) (h : s.max ≤ v) : s.percentileRank v = 100 := by
  rw [percentileRank, Scalar.le_eq_false hmin, if_neg Bool.false_ne_true, if_pos (Scalar.le_eq_true h)]
  rfl

theorem percentileRank_of_inside {s : Spread ℚ} (hmin : s.min < v) (hmax : v < s.max) :
    s.percentileRank v = rankAmong v s.ranked := by
  rw [percentileRank, Scalar.le_eq_false hmin, if_neg Bool.false_ne_true, Scalar.le_eq_false hmax,
    if_neg Bool.false_ne_true]

theorem percentileRank_nonneg (s : Spread ℚ) (v : ℚ) : 0 ≤ s.percentileRank v := by
  rcases le_or_gt v s.min with hle | hmin
  · exact (percentileRank_of_le_min hle).ge
  rcases le_or_gt s.max v with hge | hmax
  · rw [percentileRank_of_max_le hmin hge]
    norm_num
  · rw [percentileRank_of_inside hmin hmax]
    exact rank_le_rankAmong s.rises_ranked hmin

theorem percentileRank_le_hundred (s : Spread ℚ) (v : ℚ) : s.percentileRank v ≤ 100 := by
  rcases le_or_gt v s.min with hle | hmin
  · rw [percentileRank_of_le_min hle]
    norm_num
  rcases le_or_gt s.max v with hge | hmax
  · exact (percentileRank_of_max_le hmin hge).le
  · rw [percentileRank_of_inside hmin hmax]
    exact rankAmong_le_hundred s.rises_ranked hmin

theorem percentileRank_mono (s : Spread ℚ) (h : v ≤ w) : s.percentileRank v ≤ s.percentileRank w := by
  rcases le_or_gt v s.min with hle | hmin
  · rw [percentileRank_of_le_min hle]
    exact s.percentileRank_nonneg w
  rcases le_or_gt s.max w with hge | hmax
  · rw [percentileRank_of_max_le (hmin.trans_le h) hge]
    exact s.percentileRank_le_hundred v
  · rw [percentileRank_of_inside hmin (h.trans_lt hmax), percentileRank_of_inside (hmin.trans_le h) hmax]
    exact rankAmong_mono s.rises_ranked hmin h

theorem interpolate_checked (v : ℚ) (lo hi : Anchor ℚ) :
    interpolate (Checked.of v) (lo.map .of) (hi.map .of) = .of (interpolate v lo hi) := by
  rcases le_or_gt hi.value lo.value with hle | hlt
  · have hle := Scalar.le_eq_true hle
    rw [interpolate, interpolate, Anchor.map, Anchor.map, Checked.le_of, if_pos hle, if_pos hle]
  · have hspan : hi.value - lo.value ≠ 0 := (sub_pos.mpr hlt).ne'
    rw [interpolate_of_lt hlt, interpolate, Anchor.map, Anchor.map, Checked.le_of, Scalar.le_eq_false hlt]
    simp [Checked.of_div _ hspan]

theorem rankAmong_checked (v : ℚ) (anchors : List (Anchor ℚ)) :
    rankAmong (Checked.of v) (anchors.map (Anchor.map .of)) = .of (rankAmong v anchors) := by
  induction anchors with
  | nil => rfl
  | cons lo rest ih =>
    cases rest with
    | nil => rfl
    | cons hi rest =>
      simp only [List.map_cons, rankAmong] at ih ⊢
      rw [interpolate_checked, ih, apply_ite Checked.of]
      rfl

theorem percentileRank_checked (s : Spread ℚ) (v : ℚ) :
    (s.map Checked.of).percentileRank (.of v) = .of (s.percentileRank v) := by
  have hranked : (s.map Checked.of).ranked = s.ranked.map (Anchor.map .of) := rfl
  rw [percentileRank, hranked, rankAmong_checked, percentileRank, apply_ite Checked.of, apply_ite Checked.of]
  rfl

def nominalRanks (s : Spread ℚ) : List (ℚ × ℚ) := [(s.p25, 25), (s.p50, 50), (s.p75, 75), (s.p90, 90)]

theorem isLeast_percentileRank {s : Spread ℚ} (h : s.anchors.IsChain (· ≤ ·)) (hv : v ∈ s.anchors) (hmin : s.min < v)
    (hmax : v < s.max) : IsLeast {r | (v, r) ∈ s.nominalRanks} (s.percentileRank v) := by
  obtain ⟨a, ha, rfl⟩ : ∃ a ∈ s.ranked.tail, a.value = v := by
    have hv' : v = s.p25 ∨ v = s.p50 ∨ v = s.p75 ∨ v = s.p90 ∨ v = s.max := by simpa [anchors, hmin.ne'] using hv
    rcases hv' with rfl | rfl | rfl | rfl | rfl <;> simp [ranked]
  have hranks : {r | (a.value, r) ∈ s.nominalRanks} = {r | ∃ b ∈ s.ranked.tail, a.value = b.value ∧ r = b.rank} := by
    ext r
    simp [ranked, nominalRanks, hmax.ne]
  rw [percentileRank_of_inside hmin hmax, hranks]
  exact isLeast_rankAmong s.rises_ranked (pairwise_ranked h) ha hmin

/-- Ranks are a monotone scale from 0 to 100, computed without a quotient by zero. A value that several anchors share
has the least of their ranks. -/
theorem percentileRank_isScale (s : Spread ℚ) (h : s.anchors.IsChain (· ≤ ·)) :
    (∀ v w, v ≤ w → 0 ≤ s.percentileRank v ∧ s.percentileRank v ≤ s.percentileRank w ∧ s.percentileRank w ≤ 100) ∧
      (∀ v, (s.map Checked.of).percentileRank (.of v) = .of (s.percentileRank v)) ∧
      (∀ v ≤ s.min, s.percentileRank v = 0) ∧
      (s.min < s.max → ∀ v ≥ s.max, s.percentileRank v = 100) ∧
      ∀ v ∈ s.anchors, s.min < v → v < s.max → IsLeast {r | (v, r) ∈ s.nominalRanks} (s.percentileRank v) := by
  refine ⟨fun v w hvw => ?_, s.percentileRank_checked, fun v => percentileRank_of_le_min, fun hwide v hv => ?_, ?_⟩
  · exact ⟨s.percentileRank_nonneg v, s.percentileRank_mono hvw, s.percentileRank_le_hundred w⟩
  · exact percentileRank_of_max_le (hwide.trans_le hv) hv
  · exact fun v => isLeast_percentileRank h

def tied : Spread ℚ := ⟨20, 20, 30, 50, 0, 50⟩

theorem percentileRank_isScale_tied : tied.anchors.IsChain (· ≤ ·) ∧
    (0 ≤ tied.percentileRank 10 ∧ tied.percentileRank 10 ≤ tied.percentileRank 40 ∧ tied.percentileRank 40 ≤ 100) ∧
    tied.percentileRank 50 = 100 ∧ tied.percentileRank 20 = 25 := by
  have hchain : tied.anchors.IsChain (· ≤ ·) := by norm_num [tied, anchors]
  obtain ⟨hmono, -, -, htop, hanchors⟩ := percentileRank_isScale tied hchain
  refine ⟨hchain, hmono 10 40 (by norm_num), htop (by decide +kernel) 50 le_rfl, ?_⟩
  have hleast := hanchors 20 (by decide +kernel) (by decide +kernel) (by decide +kernel)
  have hlower : 25 ≤ tied.percentileRank 20 := by
    have hrank : tied.percentileRank 20 = 25 ∨ tied.percentileRank 20 = 50 := by
      simpa [tied, nominalRanks] using hleast.1
    rcases hrank with hrank | hrank <;> norm_num [hrank]
  exact le_antisymm (hleast.2 (by simp [tied, nominalRanks])) hlower

theorem rank_le_percentileRank_iff {s : Spread ℚ} (a : Anchor ℚ) (before : List (Anchor ℚ)) {after : List (Anchor ℚ)}
    (hranked : s.ranked = ⟨0, s.min⟩ :: (before ++ a :: after)) (hmin : s.min < a.value)
    (hbelow : ∀ b ∈ before, b.value < a.value) (hmax : a.value ≤ s.max) (v : ℚ) :
    a.rank ≤ s.percentileRank v ↔ a.value ≤ v := by
  have hrises : Rises (⟨0, s.min⟩ :: (before ++ a :: after)) := hranked ▸ s.rises_ranked
  rcases le_or_gt v s.min with hle | hlt
  · rw [percentileRank_of_le_min hle]
    exact iff_of_false (hrises.lt (by simp)).not_ge (hle.trans_lt hmin).not_ge
  rcases le_or_gt s.max v with hge | hgt
  · rw [percentileRank_of_max_le hlt hge]
    exact iff_of_true (hrises.le_hundred a (by simp)) (hmax.trans hge)
  · rw [percentileRank_of_inside hlt hgt, hranked]
    exact rank_le_rankAmong_iff hrises (List.forall_mem_cons.mpr ⟨hmin, hbelow⟩) hlt

theorem level_iff {s : Spread ℚ} (hlower : s.p25 ≤ s.p50) (hupper : s.p50 ≤ s.p75) (v : ℚ) :
    (s.level v = .excellent ↔ s.p75 ≤ v) ∧ (s.level v = .above ↔ s.p50 ≤ v ∧ ¬s.p75 ≤ v) ∧
      (s.level v = .at ↔ s.p25 ≤ v ∧ ¬s.p50 ≤ v) ∧ (s.level v = .below ↔ ¬s.p25 ≤ v) := by
  have hlevel : s.level v =
      if s.p75 ≤ v then .excellent else if s.p50 ≤ v then .above else if s.p25 ≤ v then .at else .below := by
    simp [level]
  by_cases h75 : s.p75 ≤ v
  · have h50 : s.p50 ≤ v := hupper.trans h75
    simp [hlevel, h75, h50, hlower.trans h50]
  by_cases h50 : s.p50 ≤ v
  · simp [hlevel, h75, h50, hlower.trans h50]
  by_cases h25 : s.p25 ≤ v
  · simp [hlevel, h75, h50, h25]
  · simp [hlevel, h75, h50, h25]

theorem level_iff_percentileRank {s : Spread ℚ} (hmin : s.min < s.p25) (hlower : s.p25 < s.p50) (hupper : s.p50 < s.p75)
    (htop : s.p75 ≤ s.p90) (hmax : s.p90 ≤ s.max) (v : ℚ) :
    (s.level v = .excellent ↔ 75 ≤ s.percentileRank v) ∧
      (s.level v = .above ↔ 50 ≤ s.percentileRank v ∧ s.percentileRank v < 75) ∧
      (s.level v = .at ↔ 25 ≤ s.percentileRank v ∧ s.percentileRank v < 50) ∧
      (s.level v = .below ↔ s.percentileRank v < 25) := by
  have hmax' : s.p75 ≤ s.max := htop.trans hmax
  have h25 : 25 ≤ s.percentileRank v ↔ s.p25 ≤ v :=
    rank_le_percentileRank_iff ⟨25, s.p25⟩ [] rfl hmin nofun ((hlower.trans hupper).le.trans hmax') v
  have h50 : 50 ≤ s.percentileRank v ↔ s.p50 ≤ v :=
    rank_le_percentileRank_iff ⟨50, s.p50⟩ [⟨25, s.p25⟩] rfl (hmin.trans hlower)
      (by simpa using hlower) (hupper.le.trans hmax') v
  have h75 : 75 ≤ s.percentileRank v ↔ s.p75 ≤ v :=
    rank_le_percentileRank_iff ⟨75, s.p75⟩ [⟨25, s.p25⟩, ⟨50, s.p50⟩] rfl
      (hmin.trans (hlower.trans hupper)) (by simpa using ⟨hlower.trans hupper, hupper⟩) hmax' v
  simp only [← not_le, h25, h50, h75]
  exact level_iff hlower.le hupper.le v

def peaked : Spread ℚ := ⟨10, 20, 30, 30, 0, 30⟩

theorem level_iff_percentileRank_peaked :
    (peaked.min < peaked.p25 ∧ peaked.p25 < peaked.p50 ∧ peaked.p50 < peaked.p75 ∧ peaked.p75 ≤ peaked.p90 ∧
        peaked.p90 ≤ peaked.max) ∧
      75 ≤ peaked.percentileRank 30 ∧ 50 ≤ peaked.percentileRank (299 / 10) ∧
      peaked.percentileRank (299 / 10) < 75 ∧ peaked.percentileRank (-1) < 25 := by
  have hquartiles : peaked.min < peaked.p25 ∧ peaked.p25 < peaked.p50 ∧ peaked.p50 < peaked.p75 ∧
      peaked.p75 ≤ peaked.p90 ∧ peaked.p90 ≤ peaked.max := by decide +kernel
  obtain ⟨hmin, hlower, hupper, htop, hmax⟩ := hquartiles
  have hlevels := level_iff_percentileRank hmin hlower hupper htop hmax
  refine ⟨⟨hmin, hlower, hupper, htop, hmax⟩, (hlevels 30).1.mp ?_, ?_⟩
  · decide +kernel
  have habove := (hlevels (299 / 10)).2.1.mp (by decide +kernel)
  exact ⟨habove.1, habove.2, (hlevels (-1)).2.2.2.mp (by decide +kernel)⟩

end Spread

end PortfolioReports
