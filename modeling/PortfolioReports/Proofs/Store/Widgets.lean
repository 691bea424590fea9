import PortfolioReports.Proofs.Store.Edits
import PortfolioReports.Proofs.Uuid

namespace PortfolioReports

open Calendar

def lastPosition? (id : String) (positions : List (Uuid × Int64)) : Option Int64 :=
  (positions.reverse.find? fun p => p.1.toText == id).map Prod.snd

theorem lastPosition?_append (id : String) (positions : List (Uuid × Int64)) (p : Uuid × Int64) :
    lastPosition? id (positions ++ [p]) = if p.1.toText = id then some p.2 else lastPosition? id positions := by
  by_cases hp : p.1.toText = id
  · simp [lastPosition?, hp]
  · simp [lastPosition?, hp]

namespace WidgetRow

def SameButPlace (row row' : WidgetRow) : Prop :=
  ∃ position updatedAt, row' = { row with position, updatedAt }

/-- What moving a user's widgets makes of a row. -/
structure MovedBy (user : Uuid) (time : Moment) (positions : List (Uuid × Int64)) (row row' : WidgetRow) : Prop where
  same : row.SameButPlace row'
  named : row.owner? = some user.toText → ∀ position, lastPosition? row.id positions = some position →
    row'.position = position ∧ row'.updatedAt = utcText time
  others : row.owner? ≠ some user.toText ∨ lastPosition? row.id positions = none → row' = row

def place (user : Uuid) (time : Moment) (w : WidgetRow) (p : Uuid × Int64) : WidgetRow :=
  if w.isOf user p.1 then { w with position := p.2, updatedAt := utcText time } else w

variable {user : Uuid} {time : Moment} {row row' row'' : WidgetRow}

theorem SameButPlace.refl (row : WidgetRow) : row.SameButPlace row := ⟨row.position, row.updatedAt, rfl⟩

theorem SameButPlace.trans (h : row.SameButPlace row') (h' : row'.SameButPlace row'') : row.SameButPlace row'' := by
  obtain ⟨_, _, rfl⟩ := h
  obtain ⟨position, updatedAt, rfl⟩ := h'
  exact ⟨position, updatedAt, rfl⟩

theorem SameButPlace.columns (h : row.SameButPlace row') :
    row'.id = row.id ∧ row'.owner? = row.owner? ∧ row'.createdAt = row.createdAt := by
  obtain ⟨_, _, rfl⟩ := h
  exact ⟨rfl, rfl, rfl⟩

theorem isOf_iff {id : Uuid} : row.isOf user id = true ↔ row.id = id.toText ∧ row.owner? = some user.toText := by
  rw [isOf, Bool.and_eq_true, beq_iff_eq, beq_iff_eq]

theorem place_same (p : Uuid × Int64) : row.SameButPlace (row.place user time p) := by
  unfold place
  split
  · exact ⟨_, _, rfl⟩
  · exact .refl row

theorem isOf_place (id : Uuid) (p : Uuid × Int64) : (row.place user time p).isOf user id = row.isOf user id := by
  have hsame : row.SameButPlace (row.place user time p) := place_same p
  obtain ⟨hid, howner, -⟩ := hsame.columns
  rw [isOf, isOf, hid, howner]

theorem movedBy_foldl_place (positions : List (Uuid × Int64)) (row : WidgetRow) :
    row.MovedBy user time positions (positions.foldl (place user time) row) := by
  induction positions using List.reverseRecOn with
  | nil => exact ⟨.refl row, nofun, fun _ => rfl⟩
  | append_singleton positions p ih =>
    rw [List.foldl_append, List.foldl_cons, List.foldl_nil]
    obtain ⟨hid, howned, -⟩ := ih.same.columns
    refine ⟨ih.same.trans (place_same p), ?_, ?_⟩
    · intro howner position hlast
      rw [lastPosition?_append] at hlast
      by_cases hp : p.1.toText = row.id
      · rw [if_pos hp] at hlast
        have hof : (positions.foldl (place user time) row).isOf user p.1 = true :=
          isOf_iff.mpr ⟨hid.trans hp.symm, howned.trans howner⟩
        rw [place, if_pos hof]
        exact ⟨Option.some.inj hlast, rfl⟩
      · rw [if_neg hp] at hlast
        have hnot : ¬(positions.foldl (place user time) row).isOf user p.1 = true := fun hof =>
          hp ((isOf_iff.mp hof).1.symm.trans hid)
        rw [place, if_neg hnot]
        exact ih.named howner position hlast
    · intro hnone
      rw [lastPosition?_append] at hnone
      have hbefore : row.owner? ≠ some user.toText ∨ lastPosition? row.id positions = none := by
        refine hnone.imp_right fun h => ?_
        split at h
        · cases h
        · exact h
      rw [ih.others hbefore, place, if_neg]
      intro hof
      obtain ⟨hid, howner⟩ := isOf_iff.mp hof
      rcases hnone with hother | hnone
      · exact hother howner
      · rw [if_pos hid.symm] at hnone
        cases hnone

end WidgetRow

namespace Store

variable {s : Store}

theorem moveWidgets_fst (s : Store) (user : Uuid) (time : Moment) (positions : List (Uuid × Int64)) :
    (s.moveWidgets user time positions).1 =
      { s with widgets := s.widgets.map fun w => positions.foldl (WidgetRow.place user time) w } := by
  induction positions generalizing s with
  | nil => simp [moveWidgets]
  | cons p positions ih =>
    have hfirst := ih { s with widgets := s.widgets.map fun w => w.place user time p }
    rw [List.map_map] at hfirst
    exact hfirst

theorem moveWidgets_snd (s : Store) (user : Uuid) (time : Moment) (positions : List (Uuid × Int64)) :
    (s.moveWidgets user time positions).2 =
      (positions.map fun p => s.widgets.countP (WidgetRow.isOf user p.1)).sum := by
  induction positions generalizing s with
  | nil => rfl
  | cons p positions ih =>
    have hcount (id : Uuid) : (s.widgets.map fun w => w.place user time p).countP (WidgetRow.isOf user id) =
        s.widgets.countP (WidgetRow.isOf user id) := by
      rw [List.countP_map]
      exact List.countP_congr fun w _ => by rw [Function.comp_apply, WidgetRow.isOf_place]
    have hrest := ih { s with widgets := s.widgets.map fun w => w.place user time p }
    simp only [hcount] at hrest
    rw [List.map_cons, List.sum_cons, ← hrest]
    rfl

def UniqueWidgetIds (s : Store) : Prop := (s.widgets.map WidgetRow.id).Nodup

theorem UniqueWidgetIds.countP_isOf (h : s.UniqueWidgetIds) (user id : Uuid) :
    s.widgets.countP (WidgetRow.isOf user id) = if s.widgets.any (WidgetRow.isOf user id) then 1 else 0 := by
  by_cases hany : s.widgets.any (WidgetRow.isOf user id) = true
  · obtain ⟨before, row, after, hrows, hrow, hothers⟩ :=
      exists_split h (fun _ hof => (WidgetRow.isOf_iff.mp hof).1) hany
    have hnone : (before ++ after).countP (WidgetRow.isOf user id) = 0 :=
      List.countP_eq_zero.mpr fun r hr hof => hothers r hr (WidgetRow.isOf_iff.mp hof).1
    rw [if_pos hany, hrows, List.countP_append, List.countP_cons_of_pos hrow, ← add_assoc, ← List.countP_append, hnone]
  · rw [if_neg hany, List.countP_eq_zero]
    exact fun r hr hof => hany (List.any_eq_true.mpr ⟨r, hr, hof⟩)

theorem UniqueWidgetIds.moveWidgets_snd (h : s.UniqueWidgetIds) (user : Uuid) (time : Moment)
    (positions : List (Uuid × Int64)) : (s.moveWidgets user time positions).2 =
      positions.countP fun p => s.widgets.any (WidgetRow.isOf user p.1) := by
  rw [Store.moveWidgets_snd]
  simp only [h.countP_isOf]
  induction positions with
  | nil => rfl
  | cons p positions ih => rw [List.map_cons, List.sum_cons, ih, List.countP_cons, add_comm]

theorem UniqueWidgetIds.moveWidgets (h : s.UniqueWidgetIds) (user : Uuid) (time : Moment)
    (positions : List (Uuid × Int64)) : (s.moveWidgets user time positions).1.UniqueWidgetIds := by
  rw [UniqueWidgetIds, moveWidgets_fst, List.map_map]
  have hids : (WidgetRow.id ∘ fun w => positions.foldl (WidgetRow.place user time) w) = WidgetRow.id := by
    funext w
    exact (WidgetRow.movedBy_foldl_place positions w).same.columns.1
  rw [hids]
  exact h

theorem UniqueWidgetIds.deleteWidget (h : s.UniqueWidgetIds) (id : Uuid) : (s.deleteWidget id).1.UniqueWidgetIds :=
  h.sublist (List.filter_sublist.map _)

theorem UniqueWidgetIds.putWidget (h : s.UniqueWidgetIds) (w : Widget) : (s.putWidget w).UniqueWidgetIds := by
  unfold Store.putWidget
  split
  · have hids : (change (fun r => r.id == w.id.toText) (WidgetRow.ofWidget w).updateFrom s.widgets).map WidgetRow.id =
        s.widgets.map WidgetRow.id := by
      rw [change, List.map_map]
      refine List.map_congr_left fun r _ => ?_
      rw [Function.comp_apply]
      split
      · rename_i hr
        exact (beq_iff_eq.mp hr).symm
      · rfl
    rw [UniqueWidgetIds, hids]
    exact h
  · rename_i hnew
    rw [UniqueWidgetIds, List.map_append]
    refine List.nodup_append.mpr ⟨h, List.nodup_singleton _, ?_⟩
    rintro id hold _ hlast rfl
    obtain ⟨r, hr, hid⟩ := List.mem_map.mp hold
    have hlast : id = w.id.toText := List.mem_singleton.mp hlast
    exact hnew (List.any_eq_true.mpr ⟨r, hr, beq_iff_eq.mpr (hid.trans hlast)⟩)

theorem exists_mem_putWidget {r : WidgetRow} (hr : r ∈ s.widgets) (w : Widget) : ∃ r' ∈ (s.putWidget w).widgets,
    r'.id = r.id ∧ r'.createdAt = r.createdAt ∧ (w.id.toText ≠ r.id → r' = r) := by
  unfold putWidget
  split
  · refine ⟨_, List.mem_map_of_mem hr, ?_⟩
    by_cases hid : (r.id == w.id.toText) = true
    · rw [if_pos hid]
      have hid := beq_iff_eq.mp hid
      exact ⟨hid.symm, rfl, fun hne => absurd hid.symm hne⟩
    · rw [if_neg hid]
      exact ⟨rfl, rfl, fun _ => rfl⟩
  · exact ⟨r, List.mem_append_left _ hr, rfl, rfl, fun _ => rfl⟩

theorem mem_deleteWidget {r : WidgetRow} (hr : r ∈ s.widgets) {id : Uuid} (hid : id.toText ≠ r.id) :
    r ∈ (s.deleteWidget id).1.widgets := List.mem_filter.mpr ⟨hr, bne_iff_ne.mpr hid.symm⟩

end Store

end PortfolioReports
