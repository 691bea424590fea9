import PortfolioReports.Proofs.Json.Documents
import PortfolioReports.Proofs.Json.Record
import PortfolioReports.Table.Cell

namespace PortfolioReports.Cell

open Json (ReadsFloat rereadFloat)

mutual

def isUndated : Cell → Bool
  | date _ | moment _ => false
  | list items => areUndated items
  | _ => true

def areUndated : List Cell → Bool
  | [] => true
  | c :: cs => c.isUndated && areUndated cs

end

mutual

def reread : Cell → Cell
  | float x => if x.isFinite then float (rereadFloat x) else null
  | list items => list (rereadAll items)
  | c => c

def rereadAll : List Cell → List Cell
  | [] => []
  | c :: cs => c.reread :: rereadAll cs

end

@[elab_as_elim]
theorem induction {P : Cell → Prop} (scalar : ∀ c, c.asList? = none → P c)
    (list : ∀ items, (∀ c ∈ items, P c) → P (list items)) (c : Cell) : P c :=
  match c with
  | .null | .bool _ | .int _ | .float _ | .text _ | .date _ | .moment _ => scalar _ rfl
  | .list items => list items fun c _ => induction scalar list c
termination_by sizeOf c
decreasing_by
  have := List.sizeOf_lt_of_mem ‹c ∈ items›
  simp only [Cell.list.sizeOf_spec]
  omega

theorem areUndated_eq (items : List Cell) : areUndated items = items.all isUndated := by
  induction items with
  | nil => rfl
  | cons c cs ih => rw [areUndated, ih, List.all_cons]

theorem rereadAll_eq (items : List Cell) : rereadAll items = items.map reread := by
  induction items with
  | nil => rfl
  | cons c cs ih => rw [rereadAll, ih, List.map_cons]

theorem toJsonAll_eq (items : List Cell) : toJsonAll items = items.map toJson := by
  induction items with
  | nil => rfl
  | cons c cs ih => rw [toJsonAll, ih, List.map_cons]

theorem ofJsonAll?_eq (items : List Json) : ofJsonAll? items = items.mapM ofJson? := by
  induction items with
  | nil => rfl
  | cons j js ih => rw [ofJsonAll?, ih, List.mapM_cons]

theorem depth_ofFloat (x : Float) : (Json.ofFloat x).depth = 0 := by
  unfold Json.ofFloat
  split <;> rfl

theorem of_ofJson? {j : Json} {c : Cell} (h : ofJson? j = some c) : c.isUndated = true ∧ c.toJson.depth ≤ j.depth := by
  induction j using Json.induction generalizing c with
  | scalar j hj =>
    cases j with
    | null | bool b | text s =>
      cases h
      exact ⟨rfl, Nat.le_refl 0⟩
    | int n =>
      rw [ofJson?] at h
      split at h <;> cases h
      · exact ⟨rfl, Nat.le_refl 0⟩
      · exact ⟨rfl, (depth_ofFloat _).le⟩
    | float x =>
      cases h
      exact ⟨rfl, (depth_ofFloat x).le⟩
    | unreadable => cases h
    | list items => cases hj
    | object fields => cases hj
  | list items ih =>
    rw [ofJson?, ofJsonAll?_eq, Option.map_eq_some_iff] at h
    obtain ⟨cells, hcells, rfl⟩ := h
    have hall : ∀ c ∈ cells, c.isUndated = true ∧ c.toJson.depth ≤ Json.depthOfItems items := by
      intro c hc
      obtain ⟨v, hv, hread⟩ := Json.exists_of_mapM_eq_some hcells hc
      obtain ⟨hundated, hdepth⟩ := ih v hv hread
      exact ⟨hundated, hdepth.trans (Json.depthOfItems_le_iff.mp (Nat.le_refl _) v hv)⟩
    constructor
    · rw [isUndated, areUndated_eq, List.all_eq_true]
      exact fun c hc => (hall c hc).1
    · rw [toJson, toJsonAll_eq]
      exact Json.depth_list_le_iff.mpr (List.forall_mem_map.mpr fun c hc => (hall c hc).2)
  | object fields => cases h

theorem ofJson?_reread {c : Cell} (h : c.isUndated = true) : ofJson? c.toJson.reread = some c.reread := by
  induction c using Cell.induction with
  | scalar c hc =>
    cases c with
    | null | bool b | text s => rfl
    | int n =>
      have hlow := n.le_toInt
      have hhigh := n.toInt_lt
      rw [toJson, Json.reread_int hlow (by omega), ofJson?, if_pos ⟨hlow, Int64.toInt_le n⟩, Int64.ofInt_toInt]
      rfl
    | float x =>
      rw [toJson, Json.ofFloat, reread]
      cases hx : x.isFinite <;> simp [hx, Json.reread, ofJson?]
    | date d => cases h
    | moment m => cases h
    | list items => cases hc
  | list items ih =>
    rw [isUndated, areUndated_eq, List.all_eq_true] at h
    have hitems : (items.map (Json.reread ∘ toJson)).mapM ofJson? = some (items.map reread) :=
      Json.mapM_map_eq_some fun c hc => ih c hc (h c hc)
    rw [toJson, toJsonAll_eq, Json.reread, Json.rereadItems_eq, List.map_map, ofJson?, ofJsonAll?_eq, hitems, reread,
      rereadAll_eq]
    rfl

inductive IsPlain : Cell → Prop where
  | null : IsPlain null
  | bool (b : Bool) : IsPlain (bool b)
  | int (n : Int64) : IsPlain (int n)
  | float {x : Float} (h : ReadsFloat x) : IsPlain (float x)
  | text (s : String) : IsPlain (text s)
  | list {items : List Cell} (h : ∀ c ∈ items, IsPlain c) : IsPlain (list items)

namespace IsPlain

theorem isUndated {c : Cell} (h : c.IsPlain) : c.isUndated = true := by
  induction h with
  | null | bool _ | int _ | float _ | text _ => rfl
  | list _ ih =>
    rw [Cell.isUndated, areUndated_eq, List.all_eq_true]
    exact ih

theorem reread_eq {c : Cell} (h : c.IsPlain) : c.reread = c := by
  induction h with
  | null | bool _ | int _ | text _ => rfl
  | float hx =>
    obtain ⟨hfinite, hsame⟩ := Json.readsFloat_iff.mp hx
    rw [reread, if_pos hfinite, hsame]
  | list _ ih => rw [reread, rereadAll_eq, List.map_congr_left ih, List.map_id']

end IsPlain

end PortfolioReports.Cell
