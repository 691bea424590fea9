import Mathlib.Data.List.Nodup
import PortfolioReports.Proofs.Query.Statement

namespace PortfolioReports

section Sorting

variable {α : Type} {le : α → α → Bool} {before : α → α → Prop} {l : List α}

theorem pairwise_snd_zipIdx (l : List α) : l.zipIdx.Pairwise fun a b => a.2 < b.2 := by
  rw [← List.pairwise_map, List.zipIdx_map_snd]
  exact List.pairwise_lt_range'

theorem pairwise_mergeSort_stable (htrans : ∀ a b c, le a b = true → le b c = true → le a c = true)
    (htotal : ∀ a b, (le a b || le b a) = true) (hl : l.Pairwise before) :
    (l.mergeSort le).Pairwise fun a b => le a b = true ∧ (le b a = true → before a b) := by
  have hsorted := List.pairwise_mergeSort (List.zipIdxLE_trans htrans) (List.zipIdxLE_total htotal) l.zipIdx
  have hapart : l.zipIdx.Nodup := (pairwise_snd_zipIdx l).imp fun hlt heq => Nat.ne_of_lt hlt (congrArg _ heq)
  have hnodup := (List.mergeSort_perm l.zipIdx (List.zipIdxLE le)).nodup_iff.mpr hapart
  rw [← List.mergeSort_zipIdx, List.pairwise_map]
  refine (hsorted.and hnodup).imp_of_mem fun {p q} hp hq hpq => ?_
  obtain ⟨hle, hne⟩ := hpq
  rw [List.mem_mergeSort, List.mem_zipIdx_iff_getElem?] at hp hq
  rw [List.zipIdxLE] at hle
  split at hle
  case isFalse => cases hle
  case isTrue hfirst =>
    refine ⟨hfirst, fun hback => ?_⟩
    rw [if_pos hback, decide_eq_true_iff] at hle
    have hplace : p.2 ≠ q.2 := fun heq => hne (Prod.ext (Option.some.inj (hp.symm.trans (heq ▸ hq))) heq)
    obtain ⟨hpl, hpe⟩ := List.getElem?_eq_some_iff.mp hp
    obtain ⟨hql, hqe⟩ := List.getElem?_eq_some_iff.mp hq
    rw [← hpe, ← hqe]
    exact List.pairwise_iff_getElem.mp hl _ _ hpl hql (Nat.lt_of_le_of_ne hle hplace)

end Sorting

structure SelectItem where
  expression : String
  alias? : Option String
  isHidden : Bool

namespace SelectItem

def text (i : SelectItem) : String :=
  match i.alias? with
  | some a => i.expression ++ " AS " ++ a
  | none => i.expression

def outputName (i : SelectItem) : String := i.alias?.getD i.expression

end SelectItem

def Selection.item (f : Selection) : SelectItem := ⟨f.expression, f.alias?, f.isHidden⟩

def Calculation.item (c : Calculation) : SelectItem := ⟨"(" ++ c.expression ++ ")", some c.name, false⟩

/-- By sort order, and where it is the same as declared. -/
def Selection.StandsBefore (a b : Selection × Nat) : Prop :=
  a.1.sortOrder < b.1.sortOrder ∨ a.1.sortOrder = b.1.sortOrder ∧ a.2 < b.2

namespace ReportQuery

def items (q : ReportQuery) : List SelectItem := q.fields.map Selection.item ++ q.calculations.map Calculation.item

def ShowsItem (q : ReportQuery) (place : Nat) : Prop := ∃ i, q.items[place]? = some i ∧ i.isHidden = false

/-- The visible fields with their places, in the order in which their columns are shown. -/
structure Displays (q : ReportQuery) (visible : List (Selection × Nat)) : Prop where
  perm : visible.Perm (q.fields.zipIdx.filter fun p => !p.1.isHidden)
  sorted : visible.Pairwise Selection.StandsBefore
  columns : q.columns = visible.map (fun p => Column.ofKey p.1.outputKey) ++
    q.calculations.map fun c => Column.ofKey c.name

structure ColumnsMatch (q : ReportQuery) (s : Statement) : Prop where
  displayed : ∃ visible, q.Displays visible
  written : ∃ rest, s.sql = "SELECT " ++ ", ".intercalate (q.items.map SelectItem.text) ++ " FROM " ++ q.dataset ++ rest
  matched : ∃ place : Fin q.columns.length → { i // q.ShowsItem i }, Function.Bijective place ∧
    ∀ j, q.items[(place j).val]?.map SelectItem.outputName = some q.columns[j].key
  filled : ∀ r : Row, (∀ i ∈ q.items, i.outputName ∈ r.keys) → ∀ c ∈ q.columns, ∃ cell, r.get? c.key = some cell

theorem selectItems_eq (q : ReportQuery) : q.selectItems = q.items.map SelectItem.text := by
  have hcalculations :
      q.calculations.map calculationItem = q.calculations.map (SelectItem.text ∘ Calculation.item) := by
    refine List.map_congr_left fun c _ => ?_
    rw [calculationItem_eq]
    exact congrArg (· ++ c.name) (@String.append_assoc ("(" ++ c.expression) ")" " AS ").symm
  rw [selectItems, hcalculations, items, List.map_append, List.map_map, List.map_map]
  rfl

theorem exists_displays (q : ReportQuery) : ∃ visible, q.Displays visible := by
  let before (a b : Selection × Nat) : Bool := a.1.sortOrder ≤ b.1.sortOrder
  let visible := q.fields.zipIdx.filter fun p => !p.1.isHidden
  have hfields : visible.map Prod.fst = q.fields.filter fun f => !f.isHidden := by
    rw [← List.zipIdx_map_fst 0 q.fields, List.filter_map]
    rfl
  refine ⟨visible.mergeSort before, List.mergeSort_perm _ _, ?_, ?_⟩
  · have hplaces : visible.Pairwise fun a b => a.2 < b.2 := (pairwise_snd_zipIdx q.fields).filter _
    refine (pairwise_mergeSort_stable (fun a b c => ?_) (fun a b => ?_) hplaces).imp fun {a b} hab => ?_
    · simpa only [before, decide_eq_true_eq] using Int32.le_trans
    · simpa only [before, Bool.or_eq_true, decide_eq_true_eq] using Int32.le_total _ _
    · simp only [before, decide_eq_true_eq] at hab
      by_cases hsame : a.1.sortOrder = b.1.sortOrder
      · exact .inr ⟨hsame, hab.2 (hsame ▸ Int32.le_refl _)⟩
      · exact .inl (Int32.lt_of_le_of_ne hab.1 hsame)
  · have hsort : (visible.mergeSort before).map Prod.fst =
        (visible.map Prod.fst).mergeSort fun a b => a.sortOrder ≤ b.sortOrder := List.map_mergeSort fun _ _ _ _ => rfl
    rw [columns, columnsOfFields, ← hfields, ← hsort, List.map_map]
    rfl

variable {q : ReportQuery} {visible : List (Selection × Nat)}

def shown (q : ReportQuery) (visible : List (Selection × Nat)) : List (SelectItem × Nat) :=
  visible.map (Prod.map Selection.item id) ++
    (q.calculations.zipIdx q.fields.length).map (Prod.map Calculation.item id)

theorem Displays.columns_eq (h : q.Displays visible) :
    q.columns = (q.shown visible).map fun p => Column.ofKey p.1.outputName := by
  rw [h.columns, shown, List.map_append, List.map_map, List.map_map]
  congr 1
  rw [← List.zipIdx_map_fst q.fields.length q.calculations, List.map_map, List.zipIdx_map_fst]
  rfl

theorem Displays.shown_perm (h : q.Displays visible) :
    (q.shown visible).Perm (q.items.zipIdx.filter fun p => !p.1.isHidden) := by
  have hcalculations : ∀ p ∈ (q.calculations.zipIdx q.fields.length).map (Prod.map Calculation.item id),
      (!p.1.isHidden) = true :=
    List.forall_mem_map.mpr fun _ _ => rfl
  rw [shown, items, List.zipIdx_append, List.filter_append, List.zipIdx_map, List.zipIdx_map, List.filter_map,
    List.length_map, Nat.zero_add, List.filter_eq_self.mpr hcalculations]
  exact (h.perm.map _).append_right _

section Places

variable {items : List SelectItem} {shown : List (SelectItem × Nat)}

theorem getElem?_of_shown (hperm : shown.Perm (items.zipIdx.filter fun p => !p.1.isHidden)) {p : SelectItem × Nat}
    (hp : p ∈ shown) : items[p.2]? = some p.1 ∧ p.1.isHidden = false := by
  rw [hperm.mem_iff, List.mem_filter, List.mem_zipIdx_iff_getElem?, Bool.not_eq_true'] at hp
  exact hp

theorem place_injective (hperm : shown.Perm (items.zipIdx.filter fun p => !p.1.isHidden)) {j k : Fin shown.length}
    (h : shown[j].2 = shown[k].2) : j = k := by
  have hplaces : shown.Pairwise fun a b => a.2 ≠ b.2 :=
    (hperm.pairwise_iff Ne.symm).mpr (((pairwise_snd_zipIdx items).filter _).imp Nat.ne_of_lt)
  by_contra hne
  rcases Nat.lt_or_gt_of_ne (Fin.val_ne_of_ne hne) with hlt | hlt
  · exact List.pairwise_iff_getElem.mp hplaces _ _ j.isLt k.isLt hlt h
  · exact List.pairwise_iff_getElem.mp hplaces _ _ k.isLt j.isLt hlt h.symm

theorem exists_place {columns : List Column} (hcolumns : columns = shown.map fun p => Column.ofKey p.1.outputName)
    (hperm : shown.Perm (items.zipIdx.filter fun p => !p.1.isHidden)) :
    ∃ place : Fin columns.length → { i : Nat // ∃ item, items[i]? = some item ∧ item.isHidden = false },
      Function.Bijective place ∧ ∀ j, items[(place j).val]?.map SelectItem.outputName = some columns[j].key := by
  subst hcolumns
  have hlength : (shown.map fun p => Column.ofKey p.1.outputName).length = shown.length := List.length_map _
  have hshown : ∀ j : Fin shown.length, items[shown[j].2]? = some shown[j].1 ∧ shown[j].1.isHidden = false :=
    fun j => getElem?_of_shown hperm (List.getElem_mem j.isLt)
  refine ⟨fun j => ⟨shown[j.cast hlength].2, _, hshown (j.cast hlength)⟩, ⟨fun j k hjk => ?_, fun i => ?_⟩, fun j => ?_⟩
  · have hsame := place_injective hperm (congrArg Subtype.val hjk)
    exact Fin.ext (congrArg Fin.val hsame :)
  · obtain ⟨i, item, hitem, hvisible⟩ := i
    have hmem : (item, i) ∈ shown := by
      rw [hperm.mem_iff, List.mem_filter, List.mem_zipIdx_iff_getElem?, Bool.not_eq_true']
      exact ⟨hitem, hvisible⟩
    obtain ⟨j, hj, hji⟩ := List.mem_iff_getElem.mp hmem
    exact ⟨Fin.cast hlength.symm ⟨j, hj⟩, Subtype.ext (congrArg Prod.snd hji)⟩
  · have hkey : (shown.map fun p => Column.ofKey p.1.outputName)[j] =
        Column.ofKey shown[j.cast hlength].1.outputName := List.getElem_map _
    rw [(hshown (j.cast hlength)).1, hkey]
    rfl

end Places

theorem Displays.filled (h : q.Displays visible) {r : Row} (hkeys : ∀ i ∈ q.items, i.outputName ∈ r.keys)
    {c : Column} (hc : c ∈ q.columns) : ∃ cell, r.get? c.key = some cell := by
  rw [h.columns_eq] at hc
  obtain ⟨p, hp, rfl⟩ := List.mem_map.mp hc
  have hitem := List.mem_of_getElem? (getElem?_of_shown h.shown_perm hp).1
  obtain ⟨e, he, hkey⟩ := List.mem_map.mp (hkeys p.1 hitem)
  refine Option.ne_none_iff_exists'.mp fun hnone => ?_
  have hne := List.lookup_eq_none_iff.mp hnone e he
  rw [hkey] at hne
  exact absurd rfl (bne_iff_ne.mp hne)

/-- What a query shows are the items of its statement that are not hidden. -/
theorem compile_columnsMatch {s : Statement} (h : q.compile = .ok s) : q.ColumnsMatch s := by
  obtain ⟨visible, hvisible⟩ := q.exists_displays
  exact {
    displayed := ⟨visible, hvisible⟩
    written := by
      obtain ⟨-, rfl⟩ := compile_eq_ok_iff.mp h
      refine ⟨q.wherePart ++ q.tail, ?_⟩
      rw [← selectItems_eq, ← String.append_assoc]
      rfl
    matched := exists_place hvisible.columns_eq hvisible.shown_perm
    filled := fun _ hkeys _ hc => hvisible.filled hkeys hc }

def mixedQuery : ReportQuery where
  dataset := "projects"
  fields :=
    [⟨"region", none, none, 1, none, false, none⟩, ⟨"quantity", some "total", some .sum, -5, none, false, none⟩,
     ⟨"quantity", none, some .sum, 1, none, true, none⟩, ⟨"name", none, some .count, 1, none, false, none⟩]
  conditions := []
  groupings := []
  sorts := []
  calculations := [⟨"share", "total / 2", none⟩, ⟨"region", "1", none⟩]
  limit := 0

def mixedStatement : Statement where
  sql := "SELECT region, SUM(quantity) AS total, SUM(quantity), COUNT(name), (total / 2) AS share, (1) AS region" ++
    " FROM projects"
  args := []

theorem compile_columnsMatch_mixedQuery :
    mixedQuery.compile = .ok mixedStatement ∧
      mixedQuery.columns.map Column.key = ["total", "region", "COUNT(name)", "share", "region"] ∧
      mixedQuery.ColumnsMatch mixedStatement := by
  have hcompiled : mixedQuery.compile = .ok mixedStatement := by rfl
  have hkeys : mixedQuery.columns.map Column.key = ["total", "region", "COUNT(name)", "share", "region"] := by
    simp [columns, columnsOfFields, mixedQuery, List.mergeSort, List.MergeSort.Internal.splitInTwo]
    decide
  exact ⟨hcompiled, hkeys, compile_columnsMatch hcompiled⟩

end ReportQuery

end PortfolioReports
