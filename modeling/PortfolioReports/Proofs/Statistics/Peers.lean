import Mathlib.Algebra.Order.Floor.Ring
import Mathlib.Data.List.Count
import Mathlib.Data.Rat.Floor
import Mathlib.Tactic.FieldSimp
import Mathlib.Tactic.GCongr
import Mathlib.Tactic.Linarith
import Mathlib.Tactic.NormNum
import Mathlib.Tactic.Positivity
import Mathlib.Tactic.Ring
import PortfolioReports.Proofs.Numeric.Rational
import PortfolioReports.Statistics.Comparison

namespace PortfolioReports

theorem length_takeWhile_of_pairwise {α : Type} {p : α → Bool} {l : List α}
    (h : l.Pairwise fun a b => p b = true → p a = true) : (l.takeWhile p).length = l.countP p := by
  induction l with
  | nil => rfl
  | cons a l ih =>
    obtain ⟨hfirst, hrest⟩ := List.pairwise_cons.mp h
    cases hp : p a with
    | true => rw [List.takeWhile_cons_of_pos hp, List.countP_cons_of_pos hp, List.length_cons, ih hrest]
    | false =>
      have hnone : l.countP p = 0 := List.countP_eq_zero.mpr fun b hb hpb => by simp [hfirst b hb hpb] at hp
      rw [List.takeWhile_cons_of_neg (by simp [hp]), List.countP_cons_of_neg (by simp [hp]), hnone, List.length_nil]

theorem pairwise_mergeSort_rat (values : List ℚ) : (values.mergeSort Scalar.sortsBefore).Pairwise (· ≤ ·) := by
  have htrans : ∀ a b c : ℚ, Scalar.sortsBefore a b = true → Scalar.sortsBefore b c = true →
      Scalar.sortsBefore a c = true := fun a b c hab hbc =>
    decide_eq_true ((of_decide_eq_true hab).trans (of_decide_eq_true hbc))
  have htotal : ∀ a b : ℚ, (Scalar.sortsBefore a b || Scalar.sortsBefore b a) = true := fun a b =>
    Bool.or_eq_true_iff.mpr ((le_total a b).imp decide_eq_true decide_eq_true)
  exact (List.pairwise_mergeSort htrans htotal values).imp of_decide_eq_true

theorem length_takeWhile_mergeSort (v : ℚ) (values : List ℚ) :
    ((values.mergeSort Scalar.sortsBefore).takeWhile fun u => Scalar.le u v).length =
      values.countP fun u => decide (u ≤ v) := by
  have hfront : (values.mergeSort Scalar.sortsBefore).Pairwise fun a b => Scalar.le b v = true → Scalar.le a v = true :=
    (pairwise_mergeSort_rat values).imp fun hab hb => Scalar.le_eq_true (hab.trans (of_decide_eq_true hb))
  rw [length_takeWhile_of_pairwise hfront]
  exact (List.mergeSort_perm values _).countP_eq _

def roundedToTenth (x : ℚ) : ℚ := ⌊10 * x + 1 / 2⌋ / 10

theorem roundedToTenth_mono {x y : ℚ} (h : x ≤ y) : roundedToTenth x ≤ roundedToTenth y := by
  have hfloor : ⌊10 * x + 1 / 2⌋ ≤ ⌊10 * y + 1 / 2⌋ := Int.floor_mono (by linarith)
  rw [roundedToTenth, roundedToTenth]
  gcongr

theorem roundedToTenth_zero : roundedToTenth 0 = 0 := by norm_num [roundedToTenth]

theorem roundedToTenth_hundred : roundedToTenth 100 = 100 := by norm_num [roundedToTenth]

def percentShare (part whole : ℕ) : ℚ := roundedToTenth (100 * part / whole)

theorem percentShare_nonneg (part whole : ℕ) : 0 ≤ percentShare part whole := by
  rw [← roundedToTenth_zero]
  exact roundedToTenth_mono (by positivity)

theorem percentShare_mono {part part' : ℕ} (h : part ≤ part') (whole : ℕ) :
    percentShare part whole ≤ percentShare part' whole := by
  refine roundedToTenth_mono ?_
  gcongr

theorem percentShare_self {whole : ℕ} (h : 0 < whole) : percentShare whole whole = 100 := by
  have hwhole : (whole : ℚ) ≠ 0 := Nat.cast_ne_zero.mpr h.ne'
  rw [percentShare, mul_div_assoc, div_self hwhole, mul_one, roundedToTenth_hundred]

theorem percentShare_le_hundred {part whole : ℕ} (h : part ≤ whole) : percentShare part whole ≤ 100 := by
  rcases Nat.eq_zero_or_pos whole with rfl | hpos
  · rw [percentShare, Nat.cast_zero, div_zero, roundedToTenth_zero]
    norm_num
  · exact (percentShare_mono h whole).trans (percentShare_self hpos).le

theorem peerPercentile_eq {v : ℚ} {values : List ℚ} (h : values ≠ []) :
    peerPercentile v values = percentShare (values.countP fun u => decide (u ≤ v)) values.length := by
  have hround : ∀ x : ℚ, 0 ≤ x → (Scalar.round x : ℚ) = ⌊x + 1 / 2⌋ := fun x hx => if_neg hx.not_gt
  have hempty : values.isEmpty = false := List.isEmpty_eq_false_iff.mpr h
  simp only [peerPercentile, hempty, Bool.false_eq_true, if_false, length_takeWhile_mergeSort, Scalar.whole_rat]
  rw [hround _ (by positivity), percentShare, roundedToTenth]
  push_cast
  congr 3
  ring

namespace PeerProject

variable {project : Uuid} {metric : String} {peers peers' : List (PeerProject ℚ)} {v w : ℚ}

/-- The project is one of the peers and has this value of the metric. -/
def Holds (project : Uuid) (metric : String) (peers : List (PeerProject ℚ)) (v : ℚ) : Prop :=
  ∃ p ∈ peers, p.id = project ∧ p.metrics.lookup metric = some v

def holders (metric : String) (peers : List (PeerProject ℚ)) : ℕ :=
  peers.countP fun p => (p.metrics.lookup metric).isSome

def atOrBelow (metric : String) (v : ℚ) (peers : List (PeerProject ℚ)) : ℕ :=
  peers.countP fun p => (p.metrics.lookup metric).any fun u => decide (u ≤ v)

def values (metric : String) (peers : List (PeerProject ℚ)) : List ℚ := peers.filterMap fun p => p.metrics.lookup metric

theorem length_values (metric : String) (peers : List (PeerProject ℚ)) :
    (values metric peers).length = holders metric peers := List.length_filterMap_eq_countP

theorem countP_values (metric : String) (v : ℚ) (peers : List (PeerProject ℚ)) :
    (values metric peers).countP (fun u => decide (u ≤ v)) = atOrBelow metric v peers := by
  rw [values, List.countP_filterMap, atOrBelow]
  congr 1
  funext p
  cases p.metrics.lookup metric <;> rfl

theorem atOrBelow_le_holders (metric : String) (v : ℚ) (peers : List (PeerProject ℚ)) :
    atOrBelow metric v peers ≤ holders metric peers :=
  List.countP_mono_left fun p _ hp => by
    cases h : p.metrics.lookup metric with
    | none => simp [h] at hp
    | some u => rfl

theorem Holds.holders_pos (h : Holds project metric peers v) : 0 < holders metric peers := by
  obtain ⟨p, hp, -, hv⟩ := h
  exact List.countP_pos_iff.mpr ⟨p, hp, by rw [hv]; rfl⟩

theorem atOrBelow_eq_holders (h : ∀ p ∈ peers, ∀ u, p.metrics.lookup metric = some u → u ≤ v) :
    atOrBelow metric v peers = holders metric peers := by
  refine List.countP_congr fun p hp => ?_
  cases hu : p.metrics.lookup metric with
  | none => rfl
  | some u => simp [h p hp u hu]

def entries (metric : String) (peers : List (PeerProject ℚ)) : List (Uuid × ℚ) :=
  peers.filterMap fun p => (p.metrics.lookup metric).map fun v => (p.id, v)

theorem map_snd_entries (metric : String) (peers : List (PeerProject ℚ)) :
    (entries metric peers).map Prod.snd = values metric peers := by
  rw [entries, values, List.map_filterMap]
  congr 1
  funext p
  cases p.metrics.lookup metric <;> rfl

theorem mem_entries_iff : (project, v) ∈ entries metric peers ↔ Holds project metric peers v := by
  simp only [entries, List.mem_filterMap, Option.map_eq_some_iff, Prod.mk.injEq, Holds]
  constructor
  · rintro ⟨p, hp, u, hu, hid, rfl⟩
    exact ⟨p, hp, hid, hu⟩
  · rintro ⟨p, hp, hid, hv⟩
    exact ⟨p, hp, v, hv, hid, rfl⟩

theorem Holds.unique (honce : (peers.map PeerProject.id).count project ≤ 1) (hv : Holds project metric peers v)
    (hw : Holds project metric peers w) : v = w := by
  obtain ⟨p, hp, hid, hv⟩ := hv
  obtain ⟨p', hp', hid', hw⟩ := hw
  have hsame : p = p' := by
    by_contra hne
    obtain ⟨before, after, rfl⟩ := List.append_of_mem hp
    have hother : p' ∈ before ∨ p' ∈ after := by simpa [Ne.symm hne] using hp'
    have htwo : 0 < (before.map PeerProject.id).count project + (after.map PeerProject.id).count project := by
      rcases hother with h | h
      · exact Nat.add_pos_left (List.count_pos_iff.mpr (hid' ▸ List.mem_map_of_mem h)) _
      · exact Nat.add_pos_right _ (List.count_pos_iff.mpr (hid' ▸ List.mem_map_of_mem h))
    rw [List.map_append, List.map_cons, hid, List.count_append, List.count_cons_self] at honce
    omega
  subst hsame
  exact Option.some.inj (hv.symm.trans hw)

theorem percentile_eq (project : Uuid) (metric : String) (peers : List (PeerProject ℚ)) :
    percentile project metric peers = match (entries metric peers).reverse.find? fun h => h.1 = project with
      | some h => .ok (peerPercentile h.2 (values metric peers))
      | none => .error (.notFound (.peerMetric metric project)) := by
  rw [← map_snd_entries, percentile, ← entries]
  cases (entries metric peers).reverse.find? fun h => h.1 = project <;> rfl

theorem percentile_of_holds (h : Holds project metric peers v) (honly : ∀ u, Holds project metric peers u → u = v) :
    percentile project metric peers = .ok (percentShare (atOrBelow metric v peers) (holders metric peers)) := by
  have hne : values metric peers ≠ [] := List.ne_nil_of_length_pos (length_values metric peers ▸ h.holders_pos)
  rw [percentile_eq]
  cases hfound : (entries metric peers).reverse.find? fun e => e.1 = project with
  | none =>
    have hmem := List.mem_reverse.mpr (mem_entries_iff.mpr h)
    simpa using List.find?_eq_none.mp hfound _ hmem
  | some e =>
    have hid : e.1 = project := by simpa using List.find?_some hfound
    have hmem : (project, e.2) ∈ entries metric peers := by
      rw [← hid]
      exact List.mem_reverse.mp (List.mem_of_find?_eq_some hfound)
    have hv : e.2 = v := honly e.2 (mem_entries_iff.mp hmem)
    simp only [hv, peerPercentile_eq hne, countP_values, length_values]

theorem percentile_of_not_holds (h : ∀ v, ¬Holds project metric peers v) :
    percentile project metric peers = .error (.notFound (.peerMetric metric project)) := by
  rw [percentile_eq, List.find?_eq_none.mpr]
  intro e he hid
  exact h e.2 (mem_entries_iff.mp (of_decide_eq_true hid ▸ List.mem_reverse.mp he))

def Extends (metric : String) (peers peers' : List (PeerProject ℚ)) : Prop :=
  ∃ others : List (PeerProject ℚ), (∀ p ∈ others, p.metrics.lookup metric = none) ∧ peers'.Perm (peers ++ others)

namespace Extends

theorem holds_iff (h : Extends metric peers peers') : Holds project metric peers' v ↔ Holds project metric peers v := by
  obtain ⟨others, hothers, hperm⟩ := h
  constructor
  · rintro ⟨p, hp, hid, hv⟩
    rcases List.mem_append.mp (hperm.mem_iff.mp hp) with hp | hp
    · exact ⟨p, hp, hid, hv⟩
    · simp [hothers p hp] at hv
  · rintro ⟨p, hp, hrest⟩
    exact ⟨p, hperm.mem_iff.mpr (List.mem_append_left _ hp), hrest⟩

theorem holders_eq (h : Extends metric peers peers') : holders metric peers' = holders metric peers := by
  obtain ⟨others, hothers, hperm⟩ := h
  have hnone : holders metric others = 0 := List.countP_eq_zero.mpr fun p hp => by simp [hothers p hp]
  rw [holders, hperm.countP_eq, List.countP_append, ← holders, ← holders, hnone, add_zero]

theorem atOrBelow_eq (h : Extends metric peers peers') : atOrBelow metric v peers' = atOrBelow metric v peers := by
  obtain ⟨others, hothers, hperm⟩ := h
  have hnone : atOrBelow metric v others = 0 := List.countP_eq_zero.mpr fun p hp => by simp [hothers p hp]
  rw [atOrBelow, hperm.countP_eq, List.countP_append, ← atOrBelow, ← atOrBelow, hnone, add_zero]

theorem percentile_eq (honce : (peers.map PeerProject.id).count project ≤ 1) (h : Extends metric peers peers') :
    percentile project metric peers' = percentile project metric peers := by
  by_cases hholds : ∃ v, Holds project metric peers v
  · obtain ⟨v, hv⟩ := hholds
    rw [percentile_of_holds hv fun u hu => hu.unique honce hv,
      percentile_of_holds (h.holds_iff.mpr hv) fun u hu => (h.holds_iff.mp hu).unique honce hv, h.atOrBelow_eq,
      h.holders_eq]
  · rw [not_exists] at hholds
    rw [percentile_of_not_holds hholds, percentile_of_not_holds fun v hv => hholds v (h.holds_iff.mp hv)]

end Extends

section Rise

variable {before after : List (PeerProject ℚ)} {p p' : PeerProject ℚ}

theorem atOrBelow_mono (metric : String) (h : v ≤ w) (peers : List (PeerProject ℚ)) :
    atOrBelow metric v peers ≤ atOrBelow metric w peers :=
  List.countP_mono_left fun p _ hp => by
    cases hu : p.metrics.lookup metric with
    | none => simp [hu] at hp
    | some u =>
      have hle : u ≤ v := by simpa [hu] using hp
      simpa using hle.trans h

theorem atOrBelow_replaced (hv : p.metrics.lookup metric = some v) (hw : p'.metrics.lookup metric = some w)
    (h : v ≤ w) : atOrBelow metric v (before ++ p :: after) ≤ atOrBelow metric w (before ++ p' :: after) := by
  have hbefore := atOrBelow_mono metric h before
  have hafter := atOrBelow_mono metric h after
  simp only [atOrBelow, List.countP_append, List.countP_cons, hv, hw, Option.any_some, le_refl, decide_true] at *
  omega

theorem holders_replaced (hv : p.metrics.lookup metric = some v) (hw : p'.metrics.lookup metric = some w) :
    holders metric (before ++ p' :: after) = holders metric (before ++ p :: after) := by
  simp only [holders, List.countP_append, List.countP_cons, hv, hw, Option.isSome_some]

theorem percentile_replaced (honce : ((before ++ p :: after).map PeerProject.id).count project ≤ 1)
    (hid : p.id = project) (hid' : p'.id = project) (hv : p.metrics.lookup metric = some v)
    (hw : p'.metrics.lookup metric = some w) (h : v ≤ w) :
    ∃ r r', percentile project metric (before ++ p :: after) = .ok r ∧
      percentile project metric (before ++ p' :: after) = .ok r' ∧ r ≤ r' := by
  have honce' : ((before ++ p' :: after).map PeerProject.id).count project ≤ 1 := by
    rwa [List.map_append, List.map_cons, hid', ← hid, ← List.map_cons, ← List.map_append, hid]
  have hholds : Holds project metric (before ++ p :: after) v := ⟨p, by simp, hid, hv⟩
  have hholds' : Holds project metric (before ++ p' :: after) w := ⟨p', by simp, hid', hw⟩
  refine ⟨_, _, percentile_of_holds hholds fun u hu => hu.unique honce hholds,
    percentile_of_holds hholds' fun u hu => hu.unique honce' hholds', ?_⟩
  rw [holders_replaced hv hw]
  exact percentShare_mono (atOrBelow_replaced hv hw h) _

end Rise

/-- The percentile of a project that is one of the peers once is the share of those with the metric that do not exceed
it, in percent and rounded to one place; without the metric there is none. -/
theorem percentile_isShare (project : Uuid) (metric : String) (peers : List (PeerProject ℚ))
    (honce : (peers.map PeerProject.id).count project ≤ 1) :
    (percentile project metric peers = .error (.notFound (.peerMetric metric project)) ↔
        ∀ v, ¬Holds project metric peers v) ∧
      (∀ v, Holds project metric peers v → percentile project metric peers =
        .ok (roundedToTenth (100 * atOrBelow metric v peers / holders metric peers))) ∧
      (∀ r, percentile project metric peers = .ok r → 0 ≤ r ∧ r ≤ 100) ∧
      (∀ peers', Extends metric peers peers' →
        percentile project metric peers' = percentile project metric peers) ∧
      (∀ before p after p' v w, peers = before ++ p :: after → p.id = project → p'.id = project →
        p.metrics.lookup metric = some v → p'.metrics.lookup metric = some w → v ≤ w →
          ∃ r r', percentile project metric peers = .ok r ∧
            percentile project metric (before ++ p' :: after) = .ok r' ∧ r ≤ r') ∧
      ∀ v, Holds project metric peers v → (∀ p ∈ peers, ∀ u, p.metrics.lookup metric = some u → u ≤ v) →
        percentile project metric peers = .ok 100 := by
  have hshare : ∀ v, Holds project metric peers v → percentile project metric peers =
      .ok (percentShare (atOrBelow metric v peers) (holders metric peers)) :=
    fun v hv => percentile_of_holds hv fun u hu => hu.unique honce hv
  refine ⟨⟨fun herror v hv => ?_, percentile_of_not_holds⟩, hshare, fun r hr => ?_,
    fun peers' h => h.percentile_eq honce, ?_, fun v hv htop => ?_⟩
  · rw [hshare v hv] at herror
    cases herror
  · by_cases hholds : ∃ v, Holds project metric peers v
    · obtain ⟨v, hv⟩ := hholds
      rw [hshare v hv, Except.ok.injEq] at hr
      exact hr ▸ ⟨percentShare_nonneg _ _, percentShare_le_hundred (atOrBelow_le_holders metric v peers)⟩
    · rw [percentile_of_not_holds (not_exists.mp hholds)] at hr
      cases hr
  · rintro before p after p' v w rfl hid hid' hv hw h
    exact percentile_replaced honce hid hid' hv hw h
  · rw [hshare v hv, atOrBelow_eq_holders htop, percentShare_self hv.holders_pos]

def numbered (n : ℕ) : Uuid := ⟨Vector.replicate 32 ⟨n % 16, Nat.mod_lt n (by decide)⟩⟩

def yielding (n : ℕ) (yields : List ℚ) : PeerProject ℚ :=
  ⟨numbered n, yields.map fun y => ("yield", y), none, none⟩

def fourPeers : List (PeerProject ℚ) := [yielding 1 [30], yielding 2 [20], yielding 3 [], yielding 4 [20]]

theorem percentile_isShare_fourPeers :
    (fourPeers.map PeerProject.id).count (numbered 2) ≤ 1 ∧
      percentile (numbered 2) "yield" fourPeers = .ok (667 / 10) ∧
      percentile (numbered 2) "yield" (yielding 5 [] :: fourPeers.reverse) = .ok (667 / 10) ∧
      percentile (numbered 3) "yield" fourPeers = .error (.notFound (.peerMetric "yield" (numbered 3))) := by
  have honce : (fourPeers.map PeerProject.id).count (numbered 2) ≤ 1 := by decide
  have honce' : (fourPeers.map PeerProject.id).count (numbered 3) ≤ 1 := by decide
  have hholds : Holds (numbered 2) "yield" fourPeers 20 :=
    ⟨yielding 2 [20], by simp [fourPeers], rfl, by decide +kernel⟩
  obtain ⟨-, hshare, -, hothers, -⟩ := percentile_isShare (numbered 2) "yield" fourPeers honce
  have hrounded : roundedToTenth (100 * atOrBelow "yield" 20 fourPeers / holders "yield" fourPeers) = 667 / 10 := by
    decide +kernel
  have hextends : Extends "yield" fourPeers (yielding 5 [] :: fourPeers.reverse) :=
    ⟨[yielding 5 []], by simp [yielding], (List.perm_append_singleton _ _).symm.trans
      ((List.reverse_perm fourPeers).append_right _)⟩
  refine ⟨honce, hrounded ▸ hshare 20 hholds, (hothers _ hextends).trans (hrounded ▸ hshare 20 hholds), ?_⟩
  refine (percentile_isShare (numbered 3) "yield" fourPeers honce').1.mpr ?_
  rintro v ⟨p, hp, hid, hv⟩
  have hnone : ∀ p ∈ fourPeers, p.id = numbered 3 → p.metrics.lookup "yield" = none := by decide +kernel
  simp [hnone p hp hid] at hv

end PeerProject

end PortfolioReports
