import PortfolioReports.Proofs.Table.Cell
import PortfolioReports.Query.Basic

namespace PortfolioReports

open Json

namespace Selection

theorem ofJson?_toJson (f : Selection) : ofJson? f.toJson.reread = some f := by
  have hkeys : (([("name", text f.name)] ++ present "alias" text f.alias? ++ present "aggregate" ofWord f.aggregate? ++
      [("sort_order", Json.int f.sortOrder.toInt)] ++ present "format" text f.format? ++
      [("is_hidden", Json.bool f.isHidden)] ++ present "data_type" text f.dataType?).map Prod.fst).Sublist
      ["name", "alias", "aggregate", "sort_order", "format", "is_hidden", "data_type"] := by
    simp only [List.map_append, List.map_cons, List.map_nil]
    exact ((((((List.Sublist.refl ["name"]).append (keys_present ..)).append (keys_present ..)).append
      (List.Sublist.refl ["sort_order"])).append (keys_present ..)).append
      (List.Sublist.refl ["is_hidden"])).append (keys_present ..)
  obtain ⟨r, hr, hget⟩ := record?_reread hkeys (by decide)
  have hname : r.field "name" asText? = some f.name := Record.field_eq (text f.name) (by simp [hget]) rfl
  have halias : r.optionalOr "alias" asText? = some f.alias? :=
    Record.optionalOr_eq text (by simp [hget, List.lookup_cons, List.lookup_append, lookup_present]) fun _ => rfl
  have haggregate : r.optionalOr "aggregate" asWord? = some f.aggregate? :=
    Record.optionalOr_eq ofWord (by simp [hget, List.lookup_cons, List.lookup_append, lookup_present])
      nullable_asWord?_ofWord
  have hsortOrder : r.fieldOr "sort_order" asInt32? 0 = some f.sortOrder :=
    Record.fieldOr_eq (Json.int f.sortOrder.toInt)
      (by simp [hget, List.lookup_cons, List.lookup_append, lookup_present]) (asInt32?_reread f.sortOrder)
  have hformat : r.optionalOr "format" asText? = some f.format? :=
    Record.optionalOr_eq text (by simp [hget, List.lookup_cons, List.lookup_append, lookup_present]) fun _ => rfl
  have hhidden : r.fieldOr "is_hidden" asBool? false = some f.isHidden :=
    Record.fieldOr_eq (Json.bool f.isHidden) (by simp [hget, List.lookup_cons, List.lookup_append, lookup_present]) rfl
  have hdataType : r.optionalOr "data_type" asText? = some f.dataType? :=
    Record.optionalOr_eq text (by simp [hget, List.lookup_cons, List.lookup_append, lookup_present]) fun _ => rfl
  rw [ofJson?, toJson, hr]
  simp only [Option.bind_eq_bind, Option.bind_some, hname, halias, haggregate, hsortOrder, hformat, hhidden, hdataType]
  rfl

end Selection

theorem Operator.ofName_name (op : Operator) : ofName (Vocabulary.name op) = op := by
  rw [ofName, Vocabulary.ofName?_name, Option.getD_some]

namespace Condition

def reread (c : Condition) : Condition := { c with operand := c.operand.reread }

theorem ofJson?_toJson {c : Condition} (h : c.operand.isUndated = true) : ofJson? c.toJson.reread = some c.reread := by
  have hkeys : (([("field", text c.field), ("operator", ofWord c.operator), ("value", c.operand.toJson)] ++
      present "logic" ofWord c.connective?).map Prod.fst).Sublist ["field", "operator", "value", "logic"] := by
    rw [List.map_append]
    exact (List.Sublist.refl ["field", "operator", "value"]).append (keys_present ..)
  obtain ⟨r, hr, hget⟩ := record?_reread hkeys (by decide)
  have hfield : r.field "field" asText? = some c.field := Record.field_eq (text c.field) (by simp [hget]) rfl
  have hoperator : r.field "operator" (asName? fun s => some (Operator.ofName s)) = some c.operator :=
    Record.field_eq (ofWord c.operator) (by simp [hget, List.lookup_cons])
      (congrArg some (Operator.ofName_name c.operator))
  have hoperand : r.fieldOr "value" Cell.ofJson? .null = some c.operand.reread :=
    Record.fieldOr_eq c.operand.toJson (by simp [hget, List.lookup_cons]) (Cell.ofJson?_reread h)
  have hconnective : r.optionalOr "logic" asWord? = some c.connective? :=
    Record.optionalOr_eq ofWord (by simp [hget, List.lookup_cons, lookup_present]) nullable_asWord?_ofWord
  rw [ofJson?, toJson, hr]
  simp only [Option.bind_eq_bind, Option.bind_some, hfield, hoperator, hoperand, hconnective]
  rfl

end Condition

theorem Grouping.ofJson?_toJson (g : Grouping) : ofJson? g.toJson.reread = some g := by
  have hkeys : ([("field", text g.field), ("time_grain", ofWord g.grain)].map Prod.fst).Sublist
      ["field", "time_grain"] := List.Sublist.refl _
  obtain ⟨r, hr, hget⟩ := record?_reread hkeys (by decide)
  have hfield : r.field "field" asText? = some g.field := Record.field_eq (text g.field) (by simp [hget]) rfl
  have hgrain : r.fieldOr "time_grain" asWord? .none = some g.grain :=
    Record.fieldOr_eq (ofWord g.grain) (by simp [hget, List.lookup_cons]) (asWord?_ofWord g.grain)
  rw [ofJson?, toJson, hr]
  simp only [Option.bind_eq_bind, Option.bind_some, hfield, hgrain]
  rfl

theorem SortKey.ofJson?_toJson (s : SortKey) : ofJson? s.toJson.reread = some s := by
  have hkeys : ([("field", text s.field), ("direction", text s.direction)].map Prod.fst).Sublist
      ["field", "direction"] := List.Sublist.refl _
  obtain ⟨r, hr, hget⟩ := record?_reread hkeys (by decide)
  have hfield : r.field "field" asText? = some s.field := Record.field_eq (text s.field) (by simp [hget]) rfl
  have hdirection : r.fieldOr "direction" asText? "" = some s.direction :=
    Record.fieldOr_eq (text s.direction) (by simp [hget, List.lookup_cons]) rfl
  rw [ofJson?, toJson, hr]
  simp only [Option.bind_eq_bind, Option.bind_some, hfield, hdirection]
  rfl

theorem Calculation.ofJson?_toJson (c : Calculation) : ofJson? c.toJson.reread = some c := by
  have hkeys : (([("name", text c.name), ("expression", text c.expression)] ++
      present "data_type" text c.dataType?).map Prod.fst).Sublist ["name", "expression", "data_type"] := by
    rw [List.map_append]
    exact (List.Sublist.refl ["name", "expression"]).append (keys_present ..)
  obtain ⟨r, hr, hget⟩ := record?_reread hkeys (by decide)
  have hname : r.field "name" asText? = some c.name := Record.field_eq (text c.name) (by simp [hget]) rfl
  have hexpression : r.field "expression" asText? = some c.expression :=
    Record.field_eq (text c.expression) (by simp [hget, List.lookup_cons]) rfl
  have hdataType : r.optionalOr "data_type" asText? = some c.dataType? :=
    Record.optionalOr_eq text (by simp [hget, List.lookup_cons, lookup_present]) fun _ => rfl
  rw [ofJson?, toJson, hr]
  simp only [Option.bind_eq_bind, Option.bind_some, hname, hexpression, hdataType]
  rfl

namespace ReportQuery

def reread (q : ReportQuery) : ReportQuery := { q with conditions := q.conditions.map Condition.reread }

theorem ofJson?_toJson {q : ReportQuery} (h : ∀ c ∈ q.conditions, c.operand.isUndated = true) :
    ofJson? q.toJson.reread = some q.reread := by
  have hkeys : ([("dataset", text q.dataset), ("fields", list (q.fields.map Selection.toJson)),
      ("filters", list (q.conditions.map Condition.toJson)), ("groupings", list (q.groupings.map Grouping.toJson)),
      ("sorts", list (q.sorts.map SortKey.toJson)), ("calculations", list (q.calculations.map Calculation.toJson)),
      ("limit", int q.limit.toInt)].map Prod.fst).Sublist
      ["dataset", "fields", "filters", "groupings", "sorts", "calculations", "limit"] := List.Sublist.refl _
  obtain ⟨r, hr, hget⟩ := record?_reread hkeys (by decide)
  have hdataset : r.field "dataset" asText? = some q.dataset :=
    Record.field_eq (text q.dataset) (by simp [hget]) rfl
  have hfields : r.fieldOr "fields" (asList? Selection.ofJson?) [] = some q.fields :=
    Record.fieldOr_eq (list (q.fields.map Selection.toJson)) (by simp [hget, List.lookup_cons])
      (asList?_reread_self Selection.ofJson?_toJson q.fields)
  have hconditions : r.fieldOr "filters" (asList? Condition.ofJson?) [] = some (q.conditions.map Condition.reread) :=
    Record.fieldOr_eq (list (q.conditions.map Condition.toJson)) (by simp [hget, List.lookup_cons])
      (asList?_reread fun c hc => Condition.ofJson?_toJson (h c hc))
  have hgroupings : r.fieldOr "groupings" (asList? Grouping.ofJson?) [] = some q.groupings :=
    Record.fieldOr_eq (list (q.groupings.map Grouping.toJson)) (by simp [hget, List.lookup_cons])
      (asList?_reread_self Grouping.ofJson?_toJson q.groupings)
  have hsorts : r.fieldOr "sorts" (asList? SortKey.ofJson?) [] = some q.sorts :=
    Record.fieldOr_eq (list (q.sorts.map SortKey.toJson)) (by simp [hget, List.lookup_cons])
      (asList?_reread_self SortKey.ofJson?_toJson q.sorts)
  have hcalculations : r.fieldOr "calculations" (asList? Calculation.ofJson?) [] = some q.calculations :=
    Record.fieldOr_eq (list (q.calculations.map Calculation.toJson)) (by simp [hget, List.lookup_cons])
      (asList?_reread_self Calculation.ofJson?_toJson q.calculations)
  have hlimit : r.fieldOr "limit" asInt64? 0 = some q.limit :=
    Record.fieldOr_eq (int q.limit.toInt) (by simp [hget, List.lookup_cons]) (asInt64?_reread q.limit)
  rw [ofJson?, toJson, hr]
  simp only [Option.bind_eq_bind, Option.bind_some, hdataset, hfields, hconditions, hgroupings, hsorts, hcalculations,
    hlimit]
  rfl

/-- What is written of a query can be read: operands without dates, no deeper than the limit leaves room for. -/
def IsStorable (q : ReportQuery) : Prop :=
  ∀ c ∈ q.conditions, c.operand.isUndated = true ∧ c.operand.toJson.depth + 3 ≤ depthLimit

end ReportQuery

section Depth

variable {n : Nat}

theorem depth_present_le {α : Type} {key : String} {write : α → Json} {a? : Option α}
    (h : ∀ a, (write a).depth ≤ n) : ∀ f ∈ present key write a?, f.2.depth ≤ n := by
  cases a? with
  | none => exact List.forall_mem_nil _
  | some a => exact List.forall_mem_singleton.mpr (h a)

theorem depth_list_map_le {α : Type} {write : α → Json} {l : List α} (h : ∀ a ∈ l, (write a).depth ≤ n) :
    (list (l.map write)).depth ≤ n + 1 := depth_list_le_iff.mpr (List.forall_mem_map.mpr h)

theorem depth_text_le (s : String) : (text s).depth ≤ n := n.zero_le

theorem depth_ofWord_le {α : Type} [Vocabulary α] (a : α) : (ofWord a).depth ≤ n := n.zero_le

theorem Selection.depth_toJson_le (f : Selection) : f.toJson.depth ≤ n + 1 := by
  refine depth_object_le_iff.mpr ?_
  simp only [List.forall_mem_append, List.forall_mem_singleton]
  exact ⟨⟨⟨⟨⟨⟨depth_text_le _, depth_present_le depth_text_le⟩, depth_present_le depth_ofWord_le⟩, n.zero_le⟩,
    depth_present_le depth_text_le⟩, n.zero_le⟩, depth_present_le depth_text_le⟩

theorem Condition.depth_toJson_le {c : Condition} (h : c.operand.toJson.depth ≤ n) : c.toJson.depth ≤ n + 1 := by
  refine depth_object_le_iff.mpr ?_
  simp only [List.forall_mem_append, List.forall_mem_cons]
  exact ⟨⟨depth_text_le _, depth_ofWord_le _, h, List.forall_mem_nil _⟩, depth_present_le depth_ofWord_le⟩

theorem Grouping.depth_toJson_le (g : Grouping) : g.toJson.depth ≤ n + 1 := by
  refine depth_object_le_iff.mpr ?_
  simp only [List.forall_mem_cons]
  exact ⟨depth_text_le _, depth_ofWord_le _, List.forall_mem_nil _⟩

theorem SortKey.depth_toJson_le (s : SortKey) : s.toJson.depth ≤ n + 1 := by
  refine depth_object_le_iff.mpr ?_
  simp only [List.forall_mem_cons]
  exact ⟨depth_text_le _, depth_text_le _, List.forall_mem_nil _⟩

theorem Calculation.depth_toJson_le (c : Calculation) : c.toJson.depth ≤ n + 1 := by
  refine depth_object_le_iff.mpr ?_
  simp only [List.forall_mem_append, List.forall_mem_cons]
  exact ⟨⟨depth_text_le _, depth_text_le _, List.forall_mem_nil _⟩, depth_present_le depth_text_le⟩

end Depth

namespace ReportQuery

variable {q : ReportQuery}

theorem IsStorable.depth_toJson_le (h : q.IsStorable) : q.toJson.depth ≤ depthLimit := by
  have hoperand : ∀ c ∈ q.conditions, c.operand.toJson.depth ≤ 124 :=
    fun c hc => Nat.le_of_add_le_add_right (h c hc).2
  refine depth_object_le_iff.mpr ?_
  simp only [List.forall_mem_cons]
  exact ⟨depth_text_le _, depth_list_map_le fun f _ => f.depth_toJson_le,
    depth_list_map_le fun c hc => Condition.depth_toJson_le (hoperand c hc),
    depth_list_map_le fun g _ => g.depth_toJson_le, depth_list_map_le fun s _ => s.depth_toJson_le,
    depth_list_map_le fun c _ => c.depth_toJson_le, Nat.zero_le _, List.forall_mem_nil _⟩

theorem isStorable_of_depth_toJson_le (hundated : ∀ c ∈ q.conditions, c.operand.isUndated = true)
    (hdepth : q.toJson.depth ≤ depthLimit) : q.IsStorable := by
  intro c hc
  have hlist : (list (q.conditions.map Condition.toJson)).depth ≤ 126 :=
    depth_object_le_iff.mp hdepth ("filters", _) (by simp)
  have hcondition : c.toJson.depth ≤ 125 := depth_list_le_iff.mp hlist _ (List.mem_map_of_mem hc)
  have hoperand : c.operand.toJson.depth ≤ 124 := depth_object_le_iff.mp hcondition ("value", _) (by simp)
  exact ⟨hundated c hc, Nat.add_le_add_right hoperand 3⟩

theorem reread_eq_self (h : ∀ c ∈ q.conditions, c.operand.IsPlain) : q.reread = q := by
  have hsame : ∀ c ∈ q.conditions, c.reread = c := by
    intro c hc
    rw [Condition.reread, (h c hc).reread_eq]
  rw [reread, List.map_congr_left hsame, List.map_id']

end ReportQuery

end PortfolioReports
