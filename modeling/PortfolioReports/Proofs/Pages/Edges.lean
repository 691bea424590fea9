import PortfolioReports.Proofs.Numeric.Sums
import PortfolioReports.Proofs.Pages.Tables

/-!
The lengths are those that are computed, with every rounding. Heights are whole numbers and so exact; of the ends of
columns it is enough that they never decrease.
-/

namespace PortfolioReports

open Scalar Numeric

variable {α : Type}

def Block.boxes : Block α → List (Box α)
  | .headerRow boxes => boxes
  | .dataRow _ boxes => boxes
  | _ => []

def Block.entryLabels : Block α → List (Label α)
  | .summaryEntry key value => [key, value]
  | _ => []

def boxesOn (pages : List (List (Block α))) : List (Box α) := pages.flatten.flatMap Block.boxes

def entryLabelsOn (pages : List (List (Block α))) : List (Label α) := pages.flatten.flatMap Block.entryLabels

theorem Block.IsLead.boxes_eq {b : Block α} (h : b.IsLead) : b.boxes = [] := by
  obtain ⟨hheader, hdata, -⟩ := h
  cases b with
  | headerRow => cases hheader
  | dataRow => cases hdata
  | _ => rfl

theorem Block.mem_boxes_iff {b : Block α} {box : Box α} :
    box ∈ b.boxes ↔ ∃ boxes, (b.header? = some boxes ∨ b.data? = some boxes) ∧ box ∈ boxes := by
  cases b <;> simp [boxes, header?, data?]

def Box.StandsOn (b : Box Float) (s : PageSetup Float) : Prop := 0 ≤ b.y ∧ b.y + b.height ≤ s.height

def Box.LiesAcross (b : Box Float) (s : PageSetup Float) : Prop := 0 ≤ b.x ∧ b.x + b.width ≤ s.width

def Label.StartsOn (l : Label Float) (s : PageSetup Float) : Prop :=
  (0 ≤ l.x ∧ l.x ≤ s.width) ∧ 0 ≤ l.baseline ∧ l.baseline ≤ s.height

instance (b : Box Float) (s : PageSetup Float) : Decidable (b.StandsOn s) := inferInstanceAs (Decidable (_ ∧ _))

instance (b : Box Float) (s : PageSetup Float) : Decidable (b.LiesAcross s) := inferInstanceAs (Decidable (_ ∧ _))

instance (l : Label Float) (s : PageSetup Float) : Decidable (l.StartsOn s) :=
  inferInstanceAs (Decidable ((_ ∧ _) ∧ _ ∧ _))

theorem measures_whole {n : ℕ} (hpos : 0 < n) (h : n < 16) : Measures (whole n : Float) n := by
  have hunpack : (whole n : Float).toModel.unpack = .finite .positive (n * 2 ^ (52 - n.log2)) (n.log2 - 52)
        (Nat.mul_pos hpos (by positivity)) ∧
      2 ^ 52 ≤ n * 2 ^ (52 - n.log2) ∧ n * 2 ^ (52 - n.log2) < 2 ^ 53 ∧ n.log2 ≤ 3 := by
    interval_cases n <;> exact ⟨rfl, by decide⟩
  obtain ⟨hunpack, hlow, hhigh, hlog⟩ := hunpack
  refine ⟨_, _, _, hunpack, hlow, hhigh, by omega, by omega, ?_⟩
  have hexponent : ((n.log2 : ℤ) - 52) = -((52 - n.log2 : ℕ) : ℤ) := by omega
  rw [hexponent, zpow_neg, zpow_natCast]
  push_cast
  field_simp

def pageLengths : List Float := [whole 210, whole 297, decimal 2159 1, decimal 2794 1, decimal 3556 1]

theorem height_mem_pageLengths (s : PageSetup Float) : s.height ∈ pageLengths := by
  unfold PageSetup.height PageSetup.dimensions
  cases s.orientation <;> cases s.size <;> simp [pageLengths, PageSize.upright]

theorem width_mem_pageLengths (s : PageSetup Float) : s.width ∈ pageLengths := by
  unfold PageSetup.width PageSetup.dimensions
  cases s.orientation <;> cases s.size <;> simp [pageLengths, PageSize.upright]

/-- The length is a positive one, and stays exact when the twenty millimetres before a break are taken off. -/
structure HasLength (L : Float) (l : ℚ) : Prop where
  measures : Measures L l
  short : Measures (L - whole 20) (l - 20)
  floor_le : (floor L : ℚ) ≤ l
  lt_floor : l < floor L + 1
  le_floor : 210 ≤ floor L
  lt : l < 400

theorem HasLength.le_iff {L : Float} {l : ℚ} (h : HasLength L l) {n : ℕ} : (n : ℚ) ≤ l ↔ n ≤ floor L := by
  constructor
  · intro hle
    have hlt : (n : ℚ) < (floor L + 1 : ℕ) := by
      push_cast
      exact hle.trans_lt h.lt_floor
    exact Nat.lt_succ_iff.mp (by exact_mod_cast hlt)
  · exact fun hle => le_trans (by exact_mod_cast hle) h.floor_le

theorem HasLength.floor_lt {L : Float} {l : ℚ} (h : HasLength L l) : floor L < 400 := by
  exact_mod_cast h.floor_le.trans_lt h.lt

theorem pageLengths_hasLength : ∀ L ∈ pageLengths, ∃ l, HasLength L l := by
  have hlength : ∀ (L : Float) (m m' : ℕ) (e : ℤ) (k : ℕ) (hpos : 0 < m) (hpos' : 0 < m'),
      L.toModel.unpack = .finite .positive m e hpos → (L - whole 20).toModel.unpack = .finite .positive m' e hpos' →
      floor L = k → (2 ^ 52 ≤ m ∧ m < 2 ^ 53) ∧ (2 ^ 52 ≤ m' ∧ m' < 2 ^ 53) ∧ -52 ≤ e ∧ e ≤ 971 ∧ 210 ≤ k →
      (m' : ℚ) * 2 ^ e = m * 2 ^ e - 20 ∧ (k : ℚ) ≤ m * 2 ^ e ∧ (m : ℚ) * 2 ^ e < k + 1 ∧ (m : ℚ) * 2 ^ e < 400 →
      ∃ l, HasLength L l := by
    rintro L m m' e k hpos hpos' hunpack hunpack' rfl ⟨⟨hlow, hhigh⟩, ⟨hlow', hhigh'⟩, he, he', hk⟩
      ⟨hshort, hle, hlt, hless⟩
    exact ⟨_, ⟨m, e, hpos, hunpack, hlow, hhigh, he, he', rfl⟩,
      ⟨m', e, hpos', hunpack', hlow', hhigh', he, he', hshort⟩, hle, hlt, hk, hless⟩
  simp only [pageLengths, List.forall_mem_cons]
  refine ⟨?_, ?_, ?_, ?_, ?_, fun _ h => absurd h List.not_mem_nil⟩
  · exact hlength _ 7388718138654720 6685030696878080 (-45) 210 (by decide) (by decide) rfl rfl (by decide +kernel)
      (by decide) (by norm_num)
  · exact hlength _ 5224879255191552 4873035534303232 (-44) 297 (by decide) (by decide) rfl rfl (by decide +kernel)
      (by decide) (by norm_num)
  · exact hlength _ 7596305933978829 6892618492202189 (-45) 215 (by decide) (by decide) rfl rfl (by decide +kernel)
      (by decide) (by norm_num)
  · exact hlength _ 4915256780809830 4563413059921510 (-44) 279 (by decide) (by decide) rfl rfl (by decide +kernel)
      (by decide) (by norm_num)
  · exact hlength _ 6255781357394330 5903937636506010 (-44) 355 (by decide) (by decide) rfl rfl (by decide +kernel)
      (by decide) (by norm_num)

def IsWidth (w : Float) : Prop := w.isNaN = true ∨ ∃ u, Measures w u ∧ u ≤ 60

theorem isWidth_clamp (a : Float) : IsWidth (clamp minColumnWidth maxColumnWidth a) := by
  have hmin : Measures (minColumnWidth : Float) 15 := measures_whole (n := 15) (by decide) (by decide)
  have hmax : Measures (maxColumnWidth : Float) 60 :=
    ⟨60 * 2 ^ 47, -47, by decide, rfl, by decide, by decide, by decide, by decide, by norm_num⟩
  unfold clamp
  split
  · exact .inr ⟨15, hmin, by norm_num⟩
  · rename_i hlow
    split
    · exact .inr ⟨60, hmax, le_rfl⟩
    · rename_i hhigh
      exact (hmin.between hmax (mt decide_eq_true hlow) (mt decide_eq_true hhigh)).imp_right
        fun ⟨u, hu, _, hle⟩ => ⟨u, hu, hle⟩

theorem isWidth_of_mem_columnWidths {labels : List String} {rows : List (List String)} {available w : Float}
    (h : w ∈ columnWidths labels rows available) : IsWidth w := by
  obtain ⟨wanted, -, rfl⟩ := List.mem_map.mp h
  exact isWidth_clamp _

variable {x W : Float} {v l : ℚ} {widths : List Float}

theorem greatest_add_lt : ((2 : ℚ) ^ 53 - 1) * 2 ^ 971 + 60 < overflow := by
  have hlarge : (2 : ℚ) ^ 6 ≤ 2 ^ 970 := pow_le_pow_right₀ (by norm_num) (by norm_num)
  rw [overflow, pow_add (2 : ℚ) 53 971, pow_succ (2 : ℚ) 970]
  generalize (2 : ℚ) ^ 970 = b at *
  linarith

theorem add_isWidth (hx : Measures x v) {w : Float} (hw : IsWidth w) :
    (x + w).isNaN = true ∨ ∃ u, Measures (x + w) u ∧ v ≤ u := by
  refine hw.imp (isNaN_add_right x) fun ⟨u, hu, hle⟩ => ?_
  have hsum : v + u < overflow := (add_le_add hx.le_greatest hle).trans_lt greatest_add_lt
  obtain ⟨t, ht, hvt, -⟩ := hx.add hu hsum
  exact ⟨t, ht, hvt⟩

theorem foldl_isNaN (h : x.isNaN = true) (widths : List Float) : (widths.foldl (· + ·) x).isNaN = true := by
  induction widths generalizing x with
  | nil => exact h
  | cons w ws ih => exact ih (isNaN_add_left h w)

theorem le_of_foldl_le (hx : Measures x v) (hwidths : ∀ w ∈ widths, IsWidth w) (hW : Measures W l)
    (h : widths.foldl (· + ·) x ≤ W) : x ≤ W := by
  induction widths generalizing x v with
  | nil => exact h
  | cons w ws ih =>
    obtain ⟨hw, hws⟩ := List.forall_mem_cons.mp hwidths
    rcases add_isWidth hx hw with hnan | ⟨u, hu, hvu⟩
    · exact absurd h (not_le_of_isNaN (foldl_isNaN hnan ws) W)
    · exact (hx.le_iff hW).mpr (hvu.trans ((hu.le_iff hW).mp (ih hu hws h)))

theorem edges_le_of_foldl_le (hx : Measures x v) (hwidths : ∀ w ∈ widths, IsWidth w) (hW : Measures W l)
    (h : widths.foldl (· + ·) x ≤ W) : ∀ p ∈ (leftEdges x widths).zip widths, 0 ≤ p.1 ∧ p.1 + p.2 ≤ W := by
  induction widths generalizing x v with
  | nil => exact fun p hp => absurd hp List.not_mem_nil
  | cons w ws ih =>
    obtain ⟨hw, hws⟩ := List.forall_mem_cons.mp hwidths
    rcases add_isWidth hx hw with hnan | ⟨u, hu, -⟩
    · exact absurd h (not_le_of_isNaN (foldl_isNaN hnan ws) W)
    · exact List.forall_mem_cons.mpr ⟨⟨hx.nonneg, le_of_foldl_le hu hws hW h⟩, ih hu hws h⟩

theorem exists_last_edge (hwidths : widths ≠ []) :
    ∃ p ∈ (leftEdges x widths).zip widths, p.1 + p.2 = widths.foldl (· + ·) x := by
  induction widths generalizing x with
  | nil => exact absurd rfl hwidths
  | cons w ws ih =>
    by_cases hws : ws = []
    · subst hws
      exact ⟨(x, w), List.mem_singleton_self _, rfl⟩
    · obtain ⟨p, hp, hend⟩ := ih (x := x + w) hws
      exact ⟨p, List.mem_cons_of_mem _ hp, hend⟩

theorem edges_le_iff (hx : Measures x v) (hwidths : ∀ w ∈ widths, IsWidth w) (hsome : widths ≠ []) (hW : Measures W l) :
    (∀ p ∈ (leftEdges x widths).zip widths, 0 ≤ p.1 ∧ p.1 + p.2 ≤ W) ↔ widths.foldl (· + ·) x ≤ W := by
  refine ⟨fun h => ?_, edges_le_of_foldl_le hx hwidths hW⟩
  obtain ⟨p, hp, hend⟩ := exists_last_edge (x := x) hsome
  exact hend ▸ (h p hp).2

variable {s : PageSetup Float} {t : TableFrame Float}

theorem ShowsTexts.liesAcross_iff {left : Float} {fill : Rgb} {size : ℕ} {texts : List String}
    {boxes : List (Box Float)} (h : ShowsTexts left widths fill size texts boxes) (hleft : Measures left v)
    (hwidths : ∀ w ∈ widths, IsWidth w) (hsome : widths ≠ []) :
    (∀ b ∈ boxes, b.LiesAcross s) ↔ widths.foldl (· + ·) left ≤ s.width := by
  obtain ⟨l, hl⟩ := pageLengths_hasLength _ (width_mem_pageLengths s)
  rw [← edges_le_iff hleft hwidths hsome hl.measures, ← h.x_eq]
  conv_rhs => rw [← h.width_eq, List.zip_map', List.forall_mem_map]
  rfl

theorem PrintsTable.liesAcross_iff {rows : List (List String)} {pages : List (List (Block Float))}
    (h : PrintsTable s t rows pages) (hleft : Measures s.margins.left v) (hwidths : ∀ w ∈ t.widths, IsWidth w)
    (hsome : t.widths ≠ []) :
    (∀ b ∈ boxesOn pages, b.LiesAcross s) ↔ t.widths.foldl (· + ·) s.margins.left ≤ s.width := by
  constructor
  · intro hall
    obtain ⟨page, hpage⟩ := List.exists_mem_of_ne_nil _ h.nonempty
    obtain ⟨before, boxes, after, rfl, -, -, hshows⟩ := h.headed page hpage
    refine (hshows.liesAcross_iff hleft hwidths hsome).mp fun b hb => hall b (List.mem_flatMap.mpr ?_)
    exact ⟨.headerRow boxes, List.mem_flatten_of_mem hpage (List.mem_append_right _ List.mem_cons_self), hb⟩
  · intro hright box hbox
    obtain ⟨b, hb, hbox⟩ := List.mem_flatMap.mp hbox
    obtain ⟨boxes, hheader | hdata, hbox⟩ := Block.mem_boxes_iff.mp hbox
    · obtain ⟨page, hpage, hb⟩ := List.mem_flatten.mp hb
      obtain ⟨-, boxes', -, -, -, honce, hshows⟩ := h.headed page hpage
      have hmem : boxes ∈ page.filterMap Block.header? := List.mem_filterMap.mpr ⟨b, hb, hheader⟩
      rw [honce, List.mem_singleton] at hmem
      exact (hshows.liesAcross_iff hleft hwidths hsome).mpr hright box (hmem ▸ hbox)
    · have hmem : boxes ∈ pages.flatten.filterMap Block.data? := List.mem_filterMap.mpr ⟨b, hb, hdata⟩
      obtain ⟨k, hk, hboxes⟩ := List.mem_iff_getElem.mp hmem
      have hshows := h.rows.get (h.rows.length_eq ▸ hk) hk
      rw [List.get_eq_getElem, List.get_eq_getElem, hboxes] at hshows
      exact (hshows.liesAcross_iff hleft hwidths hsome).mpr hright box hbox

namespace Canvas

section All

variable {p : Block α → Prop} {s : PageSetup α} {t : TableFrame α} {c : Canvas α}

def All (p : Block α → Prop) (c : Canvas α) : Prop := ∀ b ∈ c.pages.flatten, p b

theorem all_iff : c.All p ↔ (∀ b ∈ c.done.flatten, p b) ∧ ∀ b ∈ c.current, p b := by
  rw [All, pages, List.flatten_concat, List.forall_mem_append]

theorem all_add_iff {b : Block α} : (c.add b).All p ↔ c.All p ∧ p b := by
  simp only [all_iff, add, List.forall_mem_append, List.forall_mem_singleton, and_assoc]

theorem all_down_iff [Scalar α] (h : α) : (c.down h).All p ↔ c.All p := Iff.rfl

theorem all_turn_iff (s : PageSetup α) : (c.turn s).All p ↔ c.All p := by
  rw [all_iff]
  exact and_iff_left fun _ hb => absurd hb List.not_mem_nil

theorem All.add (h : c.All p) {b : Block α} (hb : p b) : (c.add b).All p := all_add_iff.mpr ⟨h, hb⟩

theorem All.turn (h : c.All p) (s : PageSetup α) : (c.turn s).All p := (all_turn_iff s).mpr h

theorem All.of_isLead (h : c.IsLead) (hp : ∀ b : Block α, b.IsLead → p b) : c.All p :=
  all_iff.mpr ⟨h.1 ▸ fun _ hb => absurd hb List.not_mem_nil, fun b hb => hp b (h.2 b hb)⟩

variable [Scalar α]

theorem All.dataRows {Q : α → Prop} {i : ℕ} {rows : List (List String)}
    (hrow : ∀ y k texts, rows[k]? = some texts → Q y →
      p (.dataRow (i + k) (boxesOf s.margins.left t.widths texts (dataBox (rowFill s (i + k)) y))))
    (hnext : ∀ y, Q y → lt (s.height - whole 20) (y + dataRowHeight) = false → Q (y + dataRowHeight))
    (hheader : p (.headerRow (boxesOf s.margins.left t.widths t.labels (headerBox s s.margins.top))))
    (htop : Q (s.margins.top + headerRowHeight)) (hc : c.All p) (hy : rows ≠ [] → Q c.y) :
    (dataRows s t c i rows).All p := by
  induction rows generalizing c i with
  | nil => exact hc
  | cons texts rest ih =>
    have hbegin := hy (List.cons_ne_nil _ _)
    have hdrawn : (c.dataRow s t i texts).All p := hc.add (hrow c.y 0 texts rfl hbegin)
    have hrest : ∀ y k texts, rest[k]? = some texts → Q y →
        p (.dataRow (i + 1 + k) (boxesOf s.margins.left t.widths texts (dataBox (rowFill s (i + 1 + k)) y))) := by
      intro y k texts htexts hQ
      rw [Nat.add_right_comm]
      exact hrow y (k + 1) texts htexts hQ
    unfold Canvas.dataRows
    dsimp only
    split
    · exact ih (c := ((c.dataRow s t i texts).turn s).headerRow s t) hrest ((hdrawn.turn s).add hheader) fun _ => htop
    · rename_i hfull
      exact ih (c := c.dataRow s t i texts) hrest hdrawn fun _ => hnext c.y hbegin (Bool.eq_false_iff.mpr hfull)

theorem all_headerRow_iff : (c.headerRow s t).All p ↔
    c.All p ∧ p (.headerRow (boxesOf s.margins.left t.widths t.labels (headerBox s c.y))) := by
  rw [Canvas.headerRow, all_down_iff, all_add_iff]

theorem all_dataRow_iff {i : ℕ} {texts : List String} : (c.dataRow s t i texts).All p ↔
    c.All p ∧ p (.dataRow i (boxesOf s.margins.left t.widths texts (dataBox (rowFill s i) c.y))) := by
  rw [Canvas.dataRow, all_down_iff, all_add_iff]

theorem All.of_dataRows {i : ℕ} {rows : List (List String)} (h : (Canvas.dataRows s t c i rows).All p) : c.All p := by
  induction rows generalizing c i with
  | nil => exact h
  | cons texts rest ih =>
    unfold Canvas.dataRows at h
    dsimp only at h
    split at h
    · exact (all_dataRow_iff.mp ((all_turn_iff s).mp (all_headerRow_iff.mp (ih h)).1)).1
    · exact (all_dataRow_iff.mp (ih h)).1

theorem All.of_dataRows_cons {i : ℕ} {texts : List String} {rest : List (List String)}
    (h : (Canvas.dataRows s t c i (texts :: rest)).All p) : (c.dataRow s t i texts).All p := by
  unfold Canvas.dataRows at h
  dsimp only at h
  split at h
  · exact (all_turn_iff s).mp (all_headerRow_iff.mp h.of_dataRows).1
  · exact h.of_dataRows

theorem All.of_table {rows : List Row} {columns : List Column} (h : (c.table s rows columns).All p) : c.All p := by
  unfold Canvas.table at h
  dsimp only at h
  split at h
  · exact h
  · exact (all_headerRow_iff.mp h.of_dataRows).1

end All

end Canvas

def Block.Upright (s : PageSetup Float) (b : Block Float) : Prop :=
  (∀ box ∈ b.boxes, box.StandsOn s) ∧ ∀ l ∈ b.entryLabels, l.StartsOn s

theorem Block.upright_of_bare {b : Block Float} (hboxes : b.boxes = []) (hlabels : b.entryLabels = []) :
    b.Upright s := by
  rw [Upright, hboxes, hlabels]
  exact ⟨fun _ hbox => absurd hbox List.not_mem_nil, fun _ hlabel => absurd hlabel List.not_mem_nil⟩

theorem Box.standsOn_iff {b : Box Float} {k height : ℕ} (hy : Measures b.y k) (hheight : Measures b.height height)
    (hexact : k + height < 2 ^ 53) : b.StandsOn s ↔ k + height ≤ floor s.height := by
  obtain ⟨l, hl⟩ := pageLengths_hasLength _ (height_mem_pageLengths s)
  rw [StandsOn, (hy.add_natCast hheight hexact).le_iff hl.measures, hl.le_iff]
  exact and_iff_right hy.nonneg

theorem Block.upright_iff {b : Block Float} {k height : ℕ} (hlabels : b.entryLabels = []) (hsome : b.boxes ≠ [])
    (hboxes : ∀ box ∈ b.boxes, Measures box.y k ∧ Measures box.height height) (hexact : k + height < 2 ^ 53) :
    b.Upright s ↔ k + height ≤ floor s.height := by
  have hstands : ∀ box ∈ b.boxes, (box.StandsOn s ↔ k + height ≤ floor s.height) := fun box hbox =>
    Box.standsOn_iff (hboxes box hbox).1 (hboxes box hbox).2 hexact
  rw [Upright, hlabels, and_iff_left (List.forall_mem_nil _)]
  obtain ⟨first, hfirst⟩ := List.exists_mem_of_ne_nil _ hsome
  exact ⟨fun hall => (hstands first hfirst).mp (hall first hfirst), fun hle box hbox => (hstands box hbox).mpr hle⟩

theorem boxesOf_ne_nil [Scalar α] {left : α} {widths : List α} {texts : List String} (box : α → α → String → Box α)
    (hwidths : widths ≠ []) (htexts : texts ≠ []) : boxesOf left widths texts box ≠ [] := by
  cases widths with
  | nil => exact absurd rfl hwidths
  | cons width widths => cases texts with
    | nil => exact absurd rfl htexts
    | cons text texts => exact List.cons_ne_nil _ _

theorem headerRow_upright_iff {k : ℕ} {y : Float} (hy : Measures y k) (hexact : k + 8 < 2 ^ 53) {left : Float}
    {widths : List Float} {labels : List String} (hwidths : widths ≠ []) (hlabels : labels ≠ []) :
    Block.Upright s (.headerRow (boxesOf left widths labels (headerBox s y))) ↔ k + 8 ≤ floor s.height :=
  Block.upright_iff rfl (boxesOf_ne_nil _ hwidths hlabels)
    (List.forall_mem_map.mpr fun _ _ => ⟨hy, measures_whole (n := 8) (by decide) (by decide)⟩) hexact

theorem dataRow_upright_iff {k : ℕ} {y : Float} (hy : Measures y k) (hexact : k + 7 < 2 ^ 53) {left : Float}
    {widths : List Float} {texts : List String} (hwidths : widths ≠ []) (htexts : texts ≠ []) (fill : Rgb) (i : ℕ) :
    Block.Upright s (.dataRow i (boxesOf left widths texts (dataBox fill y))) ↔ k + 7 ≤ floor s.height :=
  Block.upright_iff rfl (boxesOf_ne_nil _ hwidths htexts)
    (List.forall_mem_map.mpr fun _ _ => ⟨hy, measures_whole (n := 7) (by decide) (by decide)⟩) hexact

theorem rowBelow_fits {y : Float} {k : ℕ} (hy : Measures y k) (hfits : k + 7 ≤ floor s.height)
    (hopen : lt (s.height - whole 20) (y + dataRowHeight) = false) :
    Measures (y + dataRowHeight) (k + 7 : ℕ) ∧ k + 7 + 7 ≤ floor s.height := by
  obtain ⟨l, hl⟩ := pageLengths_hasLength _ (height_mem_pageLengths s)
  have hfar := hl.floor_lt
  have hseven : Measures (dataRowHeight : Float) (7 : ℕ) := measures_whole (by decide) (by decide)
  have hend := hy.add_natCast hseven (by omega)
  refine ⟨hend, hl.le_iff.mp ?_⟩
  have hnot : ¬s.height - whole 20 < y + dataRowHeight := of_decide_eq_false hopen
  rw [hl.short.lt_iff hend, not_lt] at hnot
  push_cast at hnot ⊢
  linarith

/-- Only the header and the first row can be too low: a row that is not the last before a break is followed by one that
ends on the page. -/
theorem Canvas.dataRows_upright_iff {c : Canvas Float} {k i : ℕ} {texts : List (List String)} (hy : Measures c.y k)
    (hexact : k + 15 < 2 ^ 53) (htop : s.margins.top = whole 15) (hwidths : t.widths ≠ []) (hlabels : t.labels ≠ [])
    (htexts : ∀ row ∈ texts, row ≠ []) :
    (Canvas.dataRows s t (c.headerRow s t) i texts).All (Block.Upright s) ↔
      c.All (Block.Upright s) ∧ k + 8 ≤ floor s.height ∧ (texts ≠ [] → k + 15 ≤ floor s.height) := by
  obtain ⟨l, hl⟩ := pageLengths_hasLength _ (height_mem_pageLengths s)
  have hlow := hl.le_floor
  have hfar := hl.floor_lt
  have hmargin : Measures s.margins.top (15 : ℕ) := htop ▸ measures_whole (by decide) (by decide)
  have height : Measures (headerRowHeight : Float) (8 : ℕ) := measures_whole (by decide) (by decide)
  have hheader : Block.Upright s (.headerRow (boxesOf s.margins.left t.widths t.labels (headerBox s c.y))) ↔
      k + 8 ≤ floor s.height := headerRow_upright_iff hy (by omega) hwidths hlabels
  have hfirst : Measures (c.headerRow s t).y (k + 8 : ℕ) := hy.add_natCast height (by omega)
  constructor
  · intro h
    obtain ⟨hc, hlabel⟩ := all_headerRow_iff.mp h.of_dataRows
    refine ⟨hc, hheader.mp hlabel, fun hsome => ?_⟩
    obtain ⟨row, rest, rfl⟩ := List.exists_cons_of_ne_nil hsome
    have hrow := (all_dataRow_iff.mp h.of_dataRows_cons).2
    exact (dataRow_upright_iff hfirst (by omega) hwidths (htexts row List.mem_cons_self) _ _).mp hrow
  · rintro ⟨hc, hbelow, hrow⟩
    refine All.dataRows (Q := fun y => ∃ n : ℕ, Measures y n ∧ n + 7 ≤ floor s.height) ?_ ?_ ?_ ?_ ?_ ?_
    · rintro y j row hat ⟨n, hn, hfits⟩
      exact (dataRow_upright_iff hn (by omega) hwidths (htexts row (List.mem_of_getElem? hat)) _ _).mpr hfits
    · exact fun y ⟨n, hn, hfits⟩ hopen => ⟨n + 7, rowBelow_fits hn hfits hopen⟩
    · exact (headerRow_upright_iff hmargin (by decide) hwidths hlabels).mpr (by omega)
    · exact ⟨23, hmargin.add_natCast height (by omega), by omega⟩
    · exact hc.add (hheader.mpr hbelow)
    · exact fun hsome => ⟨k + 8, hfirst, hrow hsome⟩

theorem Canvas.table_upright_iff {c : Canvas Float} {k : ℕ} (hy : Measures c.y k) (hexact : k + 15 < 2 ^ 53)
    (htop : s.margins.top = whole 15) (rows : List Row) (columns : List Column) :
    (c.table s rows columns).All (Block.Upright s) ↔ c.All (Block.Upright s) ∧
      (Column.resolve columns rows ≠ [] → k + 8 ≤ floor s.height ∧ (rows ≠ [] → k + 15 ≤ floor s.height)) := by
  unfold Canvas.table
  dsimp only
  split
  · rename_i hnone
    rw [List.isEmpty_iff] at hnone
    simp [hnone]
  · rename_i hsome
    rw [List.isEmpty_iff] at hsome
    have hlabels : (Column.resolve columns rows).map Column.label ≠ [] := by simpa using hsome
    rw [dataRows_upright_iff hy hexact htop (List.ne_nil_of_length_pos ?_) hlabels ?_]
    · simp [hsome]
    · rw [length_columnWidths]
      exact List.length_pos_iff.mpr hlabels
    · exact List.forall_mem_map.mpr fun r _ => by simpa using hsome

namespace PageSetup

def lead (s : PageSetup α) : ℕ :=
  15 + if s.includeHeader then
    20 + (if s.subtitle?.isSome then 8 else 0) + (if s.generatedAt?.isSome then 6 else 0) else 0

/-- Where a table begins below a summary, in millimetres: there are two entries to a line. -/
def tableTop (s : PageSetup α) (summary : Row) : ℕ := s.lead + 8 + 6 * ((summary.cells.length + 1) / 2) + 5

def tableRight [Scalar α] (s : PageSetup α) (rows : List Row) (columns : List Column) : α :=
  (columnWidths ((Column.resolve columns rows).map Column.label)
    (rows.map (Column.texts (Column.resolve columns rows))) s.printableWidth).foldl (· + ·) s.margins.left

/-- The page has room for a summary of this length, and below it for the header and the first row of a table, if there
is one. -/
structure LeavesRoom [Scalar α] (s : PageSetup α) (summary : Row) (rows : List Row) (columns : List Column) : Prop where
  entries : s.tableTop summary ≤ floor s.height + 7
  header : Column.resolve columns rows ≠ [] → s.tableTop summary + 8 ≤ floor s.height
  row : Column.resolve columns rows ≠ [] → rows ≠ [] → s.tableTop summary + 15 ≤ floor s.height

theorem lead_le (s : PageSetup α) : s.lead ≤ 49 := by
  unfold lead
  split_ifs <;> decide

end PageSetup

namespace Canvas

theorem textLine_y [Scalar α] (c : Canvas α) (s : PageSetup α) (text : String) (face : Typeface) (size : ℕ)
    (color : Rgb) (height : α) : (c.textLine s text face size color height).y = c.y + height := by
  unfold textLine
  dsimp only
  split <;> rfl

theorem All.textLine [Scalar α] {p : Block α → Prop} {c : Canvas α} (h : c.All p) (hline : ∀ l, p (.line l))
    (s : PageSetup α) (text : String) (face : Typeface) (size : ℕ) (color : Rgb) (height : α) :
    (c.textLine s text face size color height).All p := by
  unfold Canvas.textLine
  dsimp only
  split
  · exact h
  · exact h.add (hline _)

theorem all_begin [Scalar α] {p : Block α → Prop} (hline : ∀ l, p (.line l)) (s : PageSetup α) : s.begin.All p := by
  have hempty : (⟨[], [], s.margins.top⟩ : Canvas α).All p := fun _ hb => absurd hb List.not_mem_nil
  have htitle := hempty.textLine hline s s.title .bold 20 black (whole 12)
  unfold PageSetup.begin
  cases s.includeHeader with
  | false => exact hempty
  | true =>
    cases s.subtitle? <;> cases s.generatedAt?
    · exact htitle
    · exact htitle.textLine hline s _ _ _ _ _
    · exact htitle.textLine hline s _ _ _ _ _
    · exact (htitle.textLine hline s _ _ _ _ _).textLine hline s _ _ _ _ _

theorem begin_y_measures (hmargins : s.margins = .standard) : Measures s.begin.y s.lead := by
  have hmargin : Measures s.margins.top (15 : ℕ) := hmargins ▸ measures_whole (by decide) (by decide)
  have hsix : Measures (whole 6 : Float) (6 : ℕ) := measures_whole (by decide) (by decide)
  have height : Measures (whole 8 : Float) (8 : ℕ) := measures_whole (by decide) (by decide)
  have htwelve : Measures (whole 12 : Float) (12 : ℕ) := measures_whole (by decide) (by decide)
  have htitle := hmargin.add_natCast htwelve (by decide)
  unfold PageSetup.begin PageSetup.lead
  cases s.includeHeader with
  | false => exact hmargin
  | true =>
    cases s.subtitle? <;> cases s.generatedAt? <;>
      simp only [if_true, down, textLine_y, Option.isSome_none, Option.isSome_some, Bool.false_eq_true, if_false]
    · exact htitle.add_natCast height (by decide)
    · exact (htitle.add_natCast hsix (by decide)).add_natCast height (by decide)
    · exact (htitle.add_natCast height (by decide)).add_natCast height (by decide)
    · exact ((htitle.add_natCast height (by decide)).add_natCast hsix (by decide)).add_natCast height (by decide)

theorem entry_starts (hmargins : s.margins = .standard) {col : ℕ} (hcol : col < 2) :
    let labelWidth := s.printableWidth * decimal 3 1
    let x := s.margins.left + whole col * (labelWidth + s.printableWidth * decimal 2 1)
    (0 ≤ x ∧ x ≤ s.width) ∧ 0 ≤ x + labelWidth ∧ x + labelWidth ≤ s.width := by
  have hstarts : ∀ W ∈ pageLengths, ∀ col < 2,
      let printable : Float := W - whole 10 - whole 10
      let x : Float := whole 10 + whole col * (printable * decimal 3 1 + printable * decimal 2 1)
      (0 ≤ x ∧ x ≤ W) ∧ 0 ≤ x + printable * decimal 3 1 ∧ x + printable * decimal 3 1 ≤ W := by
    decide +kernel
  have hstart := hstarts s.width (width_mem_pageLengths s) col hcol
  unfold PageSetup.printableWidth
  rw [hmargins]
  exact hstart

theorem All.of_summaryEntries [Scalar α] {p : Block α → Prop} {s : PageSetup α} {c : Canvas α} {col : ℕ}
    {entries : List (String × Cell)} (h : (Canvas.summaryEntries s c col entries).All p) : c.All p := by
  induction entries generalizing c col with
  | nil =>
    unfold Canvas.summaryEntries at h
    split at h <;> exact h
  | cons entry rest ih =>
    unfold Canvas.summaryEntries at h
    dsimp only at h
    split at h
    · exact (all_add_iff.mp (ih h)).1
    · exact (all_add_iff.mp ((all_down_iff _).mp (ih h))).1

variable {c : Canvas Float} {k : ℕ}

theorem summaryEntry_upright_iff (hmargins : s.margins = .standard) {col : ℕ} (hcol : col < 2) {y : Float}
    (hy : Measures y k) (hexact : k + 4 < 2 ^ 53) (face : Typeface) (size : ℕ) (color color' : Rgb)
    (key value : String) :
    let labelWidth := s.printableWidth * decimal 3 1
    let x := s.margins.left + whole col * (labelWidth + s.printableWidth * decimal 2 1)
    Block.Upright s (.summaryEntry ⟨x, y + whole 4, face, size, color, key⟩
      ⟨x + labelWidth, y + whole 4, face, size, color', value⟩) ↔ k + 4 ≤ floor s.height := by
  obtain ⟨l, hl⟩ := pageLengths_hasLength _ (height_mem_pageLengths s)
  have hfour : Measures (whole 4 : Float) (4 : ℕ) := measures_whole (by decide) (by decide)
  have hbaseline := hy.add_natCast hfour hexact
  obtain ⟨hkey, hvalue⟩ := entry_starts hmargins hcol
  have hbaselines : 0 ≤ y + whole 4 ∧ y + whole 4 ≤ s.height ↔ k + 4 ≤ floor s.height := by
    rw [hbaseline.le_iff hl.measures, hl.le_iff]
    exact and_iff_right hbaseline.nonneg
  rw [← hbaselines]
  constructor
  · exact fun h => (List.forall_mem_cons.mp h.2).1.2
  · refine fun h => ⟨fun _ hbox => absurd hbox List.not_mem_nil, ?_⟩
    exact List.forall_mem_cons.mpr ⟨⟨hkey, h⟩, List.forall_mem_singleton.mpr ⟨hvalue, h⟩⟩

theorem summaryEntries_y {entries : List (String × Cell)} {col : ℕ} (hcol : col < 2)
    (hexact : k + 6 * ((entries.length + col + 1) / 2) < 2 ^ 53) (hy : Measures c.y k) :
    Measures (summaryEntries s c col entries).y (k + 6 * ((entries.length + col + 1) / 2) : ℕ) := by
  have hsix : Measures (whole 6 : Float) (6 : ℕ) := measures_whole (by decide) (by decide)
  induction entries generalizing c k col with
  | nil =>
    unfold summaryEntries
    split
    · rename_i hzero
      subst hzero
      exact hy
    · obtain rfl : col = 1 := by omega
      exact hy.add_natCast hsix (by omega)
  | cons entry rest ih =>
    rw [List.length_cons] at hexact ⊢
    unfold summaryEntries
    dsimp only
    split
    · rename_i hzero
      subst hzero
      exact ih (by decide) hexact hy
    · obtain rfl : col = 1 := by omega
      have hlines : (rest.length + 1 + 1 + 1) / 2 = (rest.length + 0 + 1) / 2 + 1 := by omega
      rw [hlines] at hexact ⊢
      rw [Nat.mul_succ, Nat.add_comm (6 * _), ← Nat.add_assoc]
      exact ih (by decide) (by omega) (hy.add_natCast hsix (by omega))

theorem summaryEntries_upright_iff (hmargins : s.margins = .standard) {entries : List (String × Cell)} {col : ℕ}
    (hcol : col < 2) (hexact : k < 2 ^ 52) (hy : Measures c.y k) :
    (summaryEntries s c col entries).All (Block.Upright s) ↔ c.All (Block.Upright s) ∧
      (entries ≠ [] → k + 6 * ((entries.length + col + 1) / 2) ≤ floor s.height + 2) := by
  obtain ⟨l, hl⟩ := pageLengths_hasLength _ (height_mem_pageLengths s)
  have hsix : Measures (whole 6 : Float) (6 : ℕ) := measures_whole (by decide) (by decide)
  induction entries generalizing c k col with
  | nil =>
    unfold summaryEntries
    split <;> exact (and_iff_left (absurd rfl)).symm
  | cons entry rest ih =>
    have hentry := summaryEntry_upright_iff hmargins hcol hy (by omega) .regular 10 darkGray black
      (entry.1 ++ ":") entry.2.printed
    dsimp only at hentry
    have hrest : rest ≠ [] ↔ 0 < rest.length := List.length_pos_iff.symm
    rw [List.length_cons, imp_iff_right (List.cons_ne_nil _ _)]
    unfold summaryEntries
    dsimp only
    split
    · rename_i hzero
      subst hzero
      have hnext := fun b => ih (c := c.add b) (by decide : 1 < 2) hexact hy
      refine (hnext _).trans ?_
      rw [all_add_iff, hentry, and_assoc]
      refine and_congr_right fun _ => ?_
      rw [hrest]
      omega
    · obtain rfl : col = 1 := by omega
      by_cases hfits : k + 4 ≤ floor s.height
      · have hfar := hl.floor_lt
        have hnext := fun b => ih (c := (c.add b).down (whole 6)) (k := k + 6) (by decide : 0 < 2) (by omega)
          (hy.add_natCast hsix (by omega))
        refine (hnext _).trans ?_
        rw [all_down_iff, all_add_iff, hentry, and_assoc]
        refine and_congr_right fun _ => ?_
        rw [hrest]
        omega
      · refine iff_of_false (fun h => hfits (hentry.mp ?_)) fun h => by omega
        exact (all_add_iff.mp ((all_down_iff _).mp (All.of_summaryEntries h))).2

end Canvas

theorem Canvas.All.finish [Scalar α] {p : Block α → Prop} {c : Canvas α} (h : c.All p) (hfooter : ∀ l, p (.footer l))
    (s : PageSetup α) : ∀ b ∈ (s.finish c).flatten, p b := by
  rw [PageSetup.finish_eq]
  intro b hb
  obtain ⟨page, hpage, hb⟩ := List.mem_flatten.mp hb
  obtain ⟨q, hq, rfl⟩ := List.mem_map.mp hpage
  rcases List.mem_append.mp hb with hb | hb
  · exact h b (List.mem_flatten_of_mem (List.fst_mem_of_mem_zipIdx hq) hb)
  · unfold PageSetup.signature at hb
    split at hb
    · exact List.mem_singleton.mp hb ▸ hfooter _
    · exact absurd hb List.not_mem_nil

theorem Canvas.all_of_finish [Scalar α] {p : Block α → Prop} {c : Canvas α} {s : PageSetup α}
    (h : ∀ b ∈ (s.finish c).flatten, p b) : c.All p := by
  rw [PageSetup.finish_eq] at h
  intro b hb
  obtain ⟨page, hpage, hb⟩ := List.mem_flatten.mp hb
  obtain ⟨i, hi⟩ := List.mem_iff_getElem?.mp hpage
  have hnumbered : (page, i) ∈ c.pages.zipIdx := List.mem_zipIdx_iff_getElem?.mpr hi
  exact h b (List.mem_flatten_of_mem (List.mem_map_of_mem hnumbered) (List.mem_append_left _ hb))

namespace PageSetup

variable {rows : List Row} {columns : List Column}

theorem finish_liesAcross_iff (hmargins : s.margins = .standard) {c : Canvas Float} (hc : c.IsLead) :
    (∀ b ∈ boxesOn (s.finish (c.table s rows columns)), b.LiesAcross s) ↔ s.tableRight rows columns ≤ s.width := by
  by_cases hcolumns : Column.resolve columns rows = []
  · have htable : c.table s rows columns = c := by simp [Canvas.table, hcolumns]
    have hboxes := (Canvas.All.of_isLead hc fun b => Block.IsLead.boxes_eq).finish (fun _ => rfl) s
    have hright : s.tableRight rows columns = whole 10 := by
      rw [tableRight, hcolumns, hmargins]
      rfl
    have hleast : ∀ W ∈ pageLengths, (whole 10 : Float) ≤ W := by decide +kernel
    rw [htable, boxesOn, List.flatMap_eq_nil_iff.mpr hboxes, hright]
    exact iff_of_true (fun _ hb => absurd hb List.not_mem_nil) (hleast _ (width_mem_pageLengths s))
  · have hleft : Measures s.margins.left (10 : ℕ) := hmargins ▸ measures_whole (by decide) (by decide)
    refine (finish_printsTable (hc.table s rfl hcolumns)).liesAcross_iff hleft
      (fun _ => isWidth_of_mem_columnWidths) ?_
    rw [← List.length_pos_iff, length_columnWidths, List.length_map]
    exact List.length_pos_iff.mpr hcolumns

theorem tablePages_upright (hmargins : s.margins = .standard) :
    ∀ b ∈ (s.tablePages rows columns).flatten, b.Upright s := by
  obtain ⟨l, hl⟩ := pageLengths_hasLength _ (height_mem_pageLengths s)
  have hlead := s.lead_le
  have hlow := hl.le_floor
  have hbegin : s.begin.All (Block.Upright s) := Canvas.all_begin (fun _ => Block.upright_of_bare rfl rfl) s
  have htable := Canvas.table_upright_iff (Canvas.begin_y_measures hmargins) (by omega) (by rw [hmargins]; rfl) rows
    columns
  refine (htable.mpr ⟨hbegin, fun _ => ⟨by omega, fun _ => by omega⟩⟩).finish
    (fun _ => Block.upright_of_bare rfl rfl) s

theorem heading_y_measures (hmargins : s.margins = .standard) :
    Measures (s.begin.textLine s "Summary" .bold 12 black (whole 8)).y (s.lead + 8 : ℕ) := by
  have hlead := s.lead_le
  have height : Measures (whole 8 : Float) (8 : ℕ) := measures_whole (by decide) (by decide)
  rw [Canvas.textLine_y]
  exact (Canvas.begin_y_measures hmargins).add_natCast height (by omega)

theorem summary_upright_iff (hmargins : s.margins = .standard) (summary : Row) :
    (s.begin.summary s summary).All (Block.Upright s) ↔ s.tableTop summary ≤ floor s.height + 7 := by
  have hlead := s.lead_le
  have hline : ∀ label, Block.Upright s (.line label) := fun _ => Block.upright_of_bare rfl rfl
  have hheading := (Canvas.all_begin hline s).textLine hline s "Summary" .bold 12 black (whole 8)
  obtain ⟨l, hl⟩ := pageLengths_hasLength _ (height_mem_pageLengths s)
  have hlow := hl.le_floor
  refine (Canvas.summaryEntries_upright_iff hmargins zero_lt_two (by omega) (heading_y_measures hmargins)).trans ?_
  rw [and_iff_right hheading, tableTop, Ne, ← List.length_eq_zero_iff]
  omega

theorem summary_y_measures (hmargins : s.margins = .standard) {summary : Row}
    (h : s.tableTop summary ≤ floor s.height + 7) : Measures (s.begin.summary s summary).y (s.tableTop summary) := by
  obtain ⟨l, hl⟩ := pageLengths_hasLength _ (height_mem_pageLengths s)
  have hfar := hl.floor_lt
  have hfive : Measures (whole 5 : Float) (5 : ℕ) := measures_whole (by decide) (by decide)
  have hlines : s.lead + 8 + 6 * ((summary.cells.length + 0 + 1) / 2) + 5 < 500 := by
    rw [tableTop] at h
    rw [Nat.add_zero]
    omega
  refine (Canvas.summaryEntries_y zero_lt_two ?_ (heading_y_measures hmargins)).add_natCast hfive ?_
  · omega
  · omega

theorem summaryPages_upright_iff (hmargins : s.margins = .standard) (summary : Row) :
    (∀ b ∈ (s.summaryPages summary rows columns).flatten, b.Upright s) ↔ s.LeavesRoom summary rows columns := by
  obtain ⟨l, hl⟩ := pageLengths_hasLength _ (height_mem_pageLengths s)
  have hfar := hl.floor_lt
  have htable := fun hentries : s.tableTop summary ≤ floor s.height + 7 =>
    Canvas.table_upright_iff (summary_y_measures hmargins hentries) (by omega) (by rw [hmargins]; rfl) rows columns
  constructor
  · intro h
    have hall := Canvas.all_of_finish h
    have hentries := (summary_upright_iff hmargins summary).mp hall.of_table
    have hbox := ((htable hentries).mp hall).2
    exact ⟨hentries, fun hsome => (hbox hsome).1, fun hsome => (hbox hsome).2⟩
  · rintro ⟨hentries, hheader, hrow⟩
    have hsummary := (summary_upright_iff hmargins summary).mpr hentries
    refine ((htable hentries).mpr ⟨hsummary, fun hsome => ⟨hheader hsome, hrow hsome⟩⟩).finish ?_ s
    exact fun _ => Block.upright_of_bare rfl rfl

theorem forall_upright_iff {pages : List (List (Block Float))} : (∀ b ∈ pages.flatten, b.Upright s) ↔
    (∀ b ∈ boxesOn pages, b.StandsOn s) ∧ ∀ l ∈ entryLabelsOn pages, l.StartsOn s := by
  simp only [boxesOn, entryLabelsOn, List.forall_mem_flatMap, Block.Upright, forall₂_and]

/-- A table goes over no upper or lower edge, and over a right one unless its last column ends before it. With a summary
all is drawn between the upper and lower edges just when that leaves room. -/
theorem boxes_within (s : PageSetup Float) (hmargins : s.margins = .standard) (rows : List Row)
    (columns : List Column) :
    (∀ b ∈ boxesOn (s.tablePages rows columns), b.StandsOn s) ∧
    ((∀ b ∈ boxesOn (s.tablePages rows columns), b.LiesAcross s) ↔ s.tableRight rows columns ≤ s.width) ∧
    ∀ summary, ((∀ b ∈ boxesOn (s.summaryPages summary rows columns), b.LiesAcross s) ↔
        s.tableRight rows columns ≤ s.width) ∧
      ((∀ b ∈ boxesOn (s.summaryPages summary rows columns), b.StandsOn s) ∧
        (∀ l ∈ entryLabelsOn (s.summaryPages summary rows columns), l.StartsOn s) ↔
        s.LeavesRoom summary rows columns) := by
  have hlead := Canvas.isLead_begin s
  refine ⟨(forall_upright_iff.mp (tablePages_upright hmargins)).1, finish_liesAcross_iff hmargins hlead,
    fun summary => ⟨finish_liesAcross_iff hmargins (hlead.summary s summary), ?_⟩⟩
  rw [← forall_upright_iff]
  exact summaryPages_upright_iff hmargins summary

theorem boxes_within_letter :
    let s : PageSetup Float :=
      { (standard : PageSetup Float) with size := .letter, orientation := .portrait, subtitle? := some "Fens" }
    let rows : List Row := [⟨[("name", .text "Fen")]⟩, ⟨[("area", .int 12), ("name", .text "Moor")]⟩]
    let columns : List Column := [⟨"name", "Name"⟩, ⟨"area", "Area"⟩]
    let summary : Row := ⟨[("Projects", .int 2), ("Area", .int 12), ("Audited", .bool true)]⟩
    s.margins = .standard ∧ s.tableRight rows columns ≤ s.width ∧ s.LeavesRoom summary rows columns ∧
      (boxesOn (s.summaryPages summary rows columns)).length = 6 ∧
      (∀ b ∈ boxesOn (s.summaryPages summary rows columns), b.StandsOn s ∧ b.LiesAcross s) ∧
      ∀ l ∈ entryLabelsOn (s.summaryPages summary rows columns), l.StartsOn s := by
  intro s rows columns summary
  have hright : s.tableRight rows columns ≤ s.width := by decide +kernel
  have hroom : s.LeavesRoom summary rows columns :=
    ⟨by decide +kernel, fun _ => by decide +kernel, fun _ _ => by decide +kernel⟩
  obtain ⟨hacross, hstands⟩ := (boxes_within s rfl rows columns).2.2 summary
  obtain ⟨hboxes, hlabels⟩ := hstands.mpr hroom
  exact ⟨rfl, hright, hroom, by decide +kernel, fun b hb => ⟨hboxes b hb, hacross.mpr hright b hb⟩, hlabels⟩

def letterColumns : List Column :=
  ["a", "b", "c", "d", "e", "f", "g", "h", "i", "j", "k", "l", "m", "n", "o", "p", "q", "r", "s", "t"].map
    fun letter => ⟨letter, letter⟩

def sixtyEntries : Row := ⟨(List.range 60).map fun n => (toString n, .int 1)⟩

theorem twentyColumns_sixtyEntries_overEdge :
    (¬∀ b ∈ boxesOn ((standard : PageSetup Float).tablePages [⟨[("a", .int 1)]⟩] letterColumns), b.LiesAcross standard) ∧
    (¬∀ b ∈ boxesOn ((standard : PageSetup Float).summaryPages sixtyEntries [⟨[("a", .int 1)]⟩] [⟨"a", "a"⟩]),
      b.StandsOn standard) ∧
    ¬∀ l ∈ entryLabelsOn ((standard : PageSetup Float).summaryPages sixtyEntries [⟨[("a", .int 1)]⟩] [⟨"a", "a"⟩]),
      l.StartsOn standard := by
  decide +kernel

end PageSetup

end PortfolioReports
