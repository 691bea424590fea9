import PortfolioReports.Json.Basic

namespace PortfolioReports.Json

def isScalar : Json → Bool
  | list _ | object _ => false
  | _ => true

@[elab_as_elim]
theorem induction {P : Json → Prop} (scalar : ∀ j, j.isScalar = true → P j)
    (list : ∀ items, (∀ j ∈ items, P j) → P (list items))
    (object : ∀ fields, (∀ f ∈ fields, P f.2) → P (object fields)) (j : Json) : P j :=
  match j with
  | .null | .bool _ | .int _ | .float _ | .text _ | .unreadable => scalar _ rfl
  | .list items => list items fun j _ => induction scalar list object j
  | .object fields => object fields fun f _ => induction scalar list object f.2
termination_by sizeOf j
decreasing_by
  · have := List.sizeOf_lt_of_mem ‹j ∈ items›
    simp only [Json.list.sizeOf_spec]
    omega
  · have := List.sizeOf_lt_of_mem ‹f ∈ fields›
    have hsnd : sizeOf f.2 < sizeOf f := by
      obtain ⟨k, j⟩ := f
      simp only [Prod.mk.sizeOf_spec]
      omega
    simp only [Json.object.sizeOf_spec]
    omega

variable {j : Json} {n : Nat}

theorem depth_scalar (h : j.isScalar = true) : j.depth = 0 := by
  unfold depth
  split
  · cases h
  · cases h
  · rfl

theorem depthOfItems_le_iff {items : List Json} : depthOfItems items ≤ n ↔ ∀ j ∈ items, j.depth ≤ n := by
  induction items with
  | nil => simp [depthOfItems]
  | cons j js ih => rw [depthOfItems, Nat.max_le, ih, List.forall_mem_cons]

theorem depthOfFields_le_iff {fields : List (String × Json)} :
    depthOfFields fields ≤ n ↔ ∀ f ∈ fields, f.2.depth ≤ n := by
  induction fields with
  | nil => simp [depthOfFields]
  | cons f fs ih => rw [depthOfFields, Nat.max_le, ih, List.forall_mem_cons]

theorem depth_list_le_iff {items : List Json} : (list items).depth ≤ n + 1 ↔ ∀ j ∈ items, j.depth ≤ n := by
  rw [depth, Nat.add_le_add_iff_right, depthOfItems_le_iff]

theorem depth_object_le_iff {fields : List (String × Json)} :
    (object fields).depth ≤ n + 1 ↔ ∀ f ∈ fields, f.2.depth ≤ n := by
  rw [depth, Nat.add_le_add_iff_right, depthOfFields_le_iff]

theorem exists_of_depth_list_le {items : List Json} (h : (list items).depth ≤ n) :
    ∃ m, n = m + 1 ∧ ∀ j ∈ items, j.depth ≤ m := by
  cases n with
  | zero => cases h
  | succ m => exact ⟨m, rfl, depth_list_le_iff.mp h⟩

theorem exists_of_depth_object_le {fields : List (String × Json)} (h : (object fields).depth ≤ n) :
    ∃ m, n = m + 1 ∧ ∀ f ∈ fields, f.2.depth ≤ m := by
  cases n with
  | zero => cases h
  | succ m => exact ⟨m, rfl, depth_object_le_iff.mp h⟩

theorem limitedItems_eq (n : Nat) (items : List Json) : limitedItems n items = items.map (limited n) := by
  induction items with
  | nil => rfl
  | cons j js ih => rw [limitedItems, ih, List.map_cons]

theorem limitedFields_eq (n : Nat) (fields : List (String × Json)) :
    limitedFields n fields = fields.map fun f => (f.1, f.2.limited n) := by
  induction fields with
  | nil => rfl
  | cons f fs ih => rw [limitedFields, ih, List.map_cons]

theorem limited_scalar (h : j.isScalar = true) (n : Nat) : j.limited n = j := by
  unfold limited
  split
  · cases h
  · cases h
  · rfl

theorem depth_limited (j : Json) (n : Nat) : (j.limited n).depth ≤ n := by
  induction j using Json.induction generalizing n with
  | scalar j h =>
    rw [limited_scalar h, depth_scalar h]
    exact Nat.zero_le n
  | list items ih =>
    cases n with
    | zero => exact Nat.le_refl 0
    | succ n =>
      rw [limited, if_neg n.succ_ne_zero, limitedItems_eq, depth_list_le_iff, List.forall_mem_map]
      exact fun j hj => ih j hj n
  | object fields ih =>
    cases n with
    | zero => exact Nat.le_refl 0
    | succ n =>
      rw [limited, if_neg n.succ_ne_zero, limitedFields_eq, depth_object_le_iff, List.forall_mem_map]
      exact fun f hf => ih f hf n

theorem limited_eq_self (h : j.depth ≤ n) : j.limited n = j := by
  induction j using Json.induction generalizing n with
  | scalar j hj => exact limited_scalar hj n
  | list items ih =>
    obtain ⟨n, rfl, hall⟩ := exists_of_depth_list_le h
    have hitems : items.map (limited n) = items.map id := List.map_congr_left fun j hj => ih j hj (hall j hj)
    rw [limited, if_neg n.succ_ne_zero, limitedItems_eq, Nat.add_sub_cancel, hitems, List.map_id]
  | object fields ih =>
    obtain ⟨n, rfl, hall⟩ := exists_of_depth_object_le h
    have hfields : fields.map (fun f => (f.1, f.2.limited n)) = fields.map id :=
      List.map_congr_left fun f hf => Prod.ext rfl (ih f hf (hall f hf))
    rw [limited, if_neg n.succ_ne_zero, limitedFields_eq, Nat.add_sub_cancel, hfields, List.map_id]

end PortfolioReports.Json
