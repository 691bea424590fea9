import PortfolioReports.Proofs.Query.Admission
import PortfolioReports.Proofs.Query.Placeholders

/-!
Texts of a query enter a statement as names of its dataset, as identifiers, or not at all. Only the expressions of
calculations are trusted and stand as they are.
-/

namespace PortfolioReports

namespace Grammar

section

variable (d : Dataset)

inductive IsColumn : String → Prop
  | field {name : String} : d.HasField name → IsColumn name
  | aggregate {name : String} (a : Aggregate) :
      d.HasField name → IsColumn (Vocabulary.name a ++ "(" ++ name ++ ")")

inductive IsItem (trusted : List String) : String → String → Prop
  | column {column : String} : IsColumn d column → IsItem trusted column column
  | renamed {column name : String} :
      IsColumn d column → isIdentifier name = true → IsItem trusted (column ++ " AS " ++ name) name
  | calculated {expression name : String} :
      expression ∈ trusted → isIdentifier name = true → IsItem trusted ("(" ++ expression ++ ") AS " ++ name) name

inductive IsCondition : String → Prop
  | compared {name : String} (o : Operator) : d.HasField name → IsCondition (name ++ o.ending)

inductive IsGroupTerm : String → Prop
  | field {name : String} : d.HasField name → IsGroupTerm name
  | truncated {name unit : String} (g : Grain) :
      g.unit? = some unit → d.HasField name → IsGroupTerm ("date_trunc('" ++ unit ++ "', " ++ name ++ ")")

def IsSortName (names : List String) (name : String) : Prop := d.HasField name ∨ name ∈ names

inductive IsSortTerm (names : List String) : String → Prop
  | ascending {name : String} : IsSortName d names name → IsSortTerm names (name ++ " ASC")
  | descending {name : String} : IsSortName d names name → IsSortTerm names (name ++ " DESC")

/-- A part with nothing in it is left out, its leading word too. -/
inductive IsPart (lead separator : String) (isTerm : String → Prop) : String → Prop
  | absent : IsPart lead separator isTerm ""
  | present {terms : List String} :
      terms ≠ [] → (∀ t ∈ terms, isTerm t) → IsPart lead separator isTerm (lead ++ separator.intercalate terms)

inductive IsLimit : String → Prop
  | absent : IsLimit ""
  | present {n : Nat} : 0 < n → IsLimit (" LIMIT " ++ toString n)

inductive IsDataSentence (trusted : List String) : String → Prop
  | select {items : List (String × String)} {conditions groupings sorts limit : String} :
      items ≠ [] → (∀ i ∈ items, IsItem d trusted i.1 i.2) →
      IsPart " WHERE " " AND " (IsCondition d) conditions →
      IsPart " GROUP BY " ", " (IsGroupTerm d) groupings →
      IsPart " ORDER BY " ", " (IsSortTerm d (items.map Prod.snd)) sorts →
      IsLimit limit →
      IsDataSentence trusted ("SELECT " ++ ", ".intercalate (items.map Prod.fst) ++ " FROM " ++ d.name ++
        conditions ++ groupings ++ sorts ++ limit)

inductive IsCountSentence : String → Prop
  | select {conditions : String} :
      IsPart " WHERE " " AND " (IsCondition d) conditions →
      IsCountSentence ("SELECT COUNT(*) FROM " ++ d.name ++ conditions)

end

theorem isPart_part {lead separator : String} {isTerm : String → Prop} {terms : List String}
    (h : ∀ t ∈ terms, isTerm t) : IsPart lead separator isTerm (ReportQuery.part lead separator terms) := by
  unfold ReportQuery.part
  split
  · exact .absent
  · rename_i hterms
    exact .present (by simpa using hterms) h

end Grammar

namespace ReportQuery.IsAdmitted

open Grammar

variable {q : ReportQuery} {d : Dataset}

def namedItems (q : ReportQuery) : List (String × String) :=
  q.fields.map (fun f => (selectItem f, f.outputKey)) ++ q.calculations.map (fun c => (calculationItem c, c.name))

theorem namedItems_fst (q : ReportQuery) : (namedItems q).map Prod.fst = q.selectItems := by
  simp [namedItems, selectItems, Function.comp_def]

theorem namedItems_snd (q : ReportQuery) : (namedItems q).map Prod.snd = Admission.outputNames q := by
  simp [namedItems, Admission.outputNames, Function.comp_def]

theorem isColumn (h : q.IsAdmitted d) {f : Selection} (hf : f ∈ q.fields) : IsColumn d f.expression := by
  obtain ⟨hname, -⟩ := Admission.selection_names (h.fields f hf)
  rw [Selection.expression_eq]
  cases f.aggregate? with
  | none => exact .field hname
  | some a => exact .aggregate a hname

theorem isItem (h : q.IsAdmitted d) {i : String × String} (hi : i ∈ namedItems q) :
    IsItem d (q.calculations.map Calculation.expression) i.1 i.2 := by
  rcases List.mem_append.mp hi with hfield | hcalculation
  · obtain ⟨f, hf, rfl⟩ := List.mem_map.mp hfield
    obtain ⟨-, halias⟩ := Admission.selection_names (h.fields f hf)
    simp only [selectItem_eq, Selection.outputKey]
    cases ha : f.alias? with
    | none => exact .column (h.isColumn hf)
    | some a => exact .renamed (h.isColumn hf) (halias a ha)
  · obtain ⟨c, hc, rfl⟩ := List.mem_map.mp hcalculation
    rw [calculationItem_eq]
    exact .calculated (List.mem_map_of_mem hc) (Admission.calculation_name (h.calculations c hc))

theorem isPart_wherePart (h : q.IsAdmitted d) : IsPart " WHERE " " AND " (IsCondition d) q.wherePart := by
  rw [wherePart_eq]
  apply isPart_part
  rw [List.forall_mem_map]
  intro c hc
  exact .compared _ (Admission.condition_field (h.conditions c (List.mem_filter.mp hc).1))

theorem isGroupTerm (h : q.IsAdmitted d) {g : Grouping} (hg : g ∈ q.groupings) : IsGroupTerm d (groupTerm g) := by
  have hfield := Admission.grouping_field (h.groupings g hg)
  rw [groupTerm_eq]
  split
  · rename_i unit hunit
    exact .truncated _ hunit hfield
  · exact .field hfield

theorem isSortTerm (h : q.IsAdmitted d) {s : SortKey} (hs : s ∈ q.sorts) :
    IsSortTerm d ((namedItems q).map Prod.snd) (orderTerm s) := by
  have hname : IsSortName d ((namedItems q).map Prod.snd) s.field := by
    rw [namedItems_snd]
    rcases Admission.sortKey_eq_ok_iff.mp (h.sorts s hs) with hfield | houtput
    · obtain ⟨f, hf⟩ := Option.isSome_iff_exists.mp hfield
      exact .inl (Dataset.hasField_of_field? hf)
    · exact .inr houtput
  rw [orderTerm_eq, String.append_assoc]
  cases s.isDescending with
  | false => exact .ascending hname
  | true => exact .descending hname

theorem isLimit (q : ReportQuery) : IsLimit q.limitPart := by
  rw [limitPart_eq]
  split
  · rename_i hpositive
    have hint : 0 < q.limit.toInt := Int64.lt_iff_toInt_lt.mp hpositive
    exact .present (by omega)
  · exact .absent

theorem name_eq (h : q.IsAdmitted d) : d.name = q.dataset := (Catalog.mem_of_dataset? h.dataset).2

theorem isDataSentence (h : q.IsAdmitted d) :
    IsDataSentence d (q.calculations.map Calculation.expression) q.dataStatement.sql := by
  have hitems : namedItems q ≠ [] := by simp [namedItems, h.selects]
  have hsentence := IsDataSentence.select hitems (fun _ => h.isItem) h.isPart_wherePart
    (isPart_part (List.forall_mem_map.mpr fun _ => h.isGroupTerm))
    (isPart_part (List.forall_mem_map.mpr fun _ => h.isSortTerm)) (isLimit q)
  rw [namedItems_fst, h.name_eq] at hsentence
  rw [dataStatement_eq]
  exact hsentence

theorem isCountSentence (h : q.IsAdmitted d) : IsCountSentence d q.countStatement.sql := by
  have hsentence := IsCountSentence.select h.isPart_wherePart
  rw [h.name_eq] at hsentence
  exact hsentence

end ReportQuery.IsAdmitted

end PortfolioReports
