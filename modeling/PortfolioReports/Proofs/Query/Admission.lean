import PortfolioReports.Proofs.Success
import PortfolioReports.Query.Admission

namespace PortfolioReports

namespace Dataset

def HasField (d : Dataset) (name : String) : Prop := ∃ f ∈ d.fields, f.name = name

theorem hasField_of_field? {d : Dataset} {name : String} {f : CatalogField} (h : d.field? name = some f) :
    d.HasField name :=
  ⟨f, List.mem_of_find?_eq_some h, by simpa using List.find?_some h⟩

end Dataset

namespace Catalog

theorem mem_of_dataset? {name : String} {d : Dataset} (h : dataset? name = some d) :
    d ∈ datasets ∧ d.name = name :=
  ⟨List.mem_of_find?_eq_some h, by simpa using List.find?_some h⟩

theorem identifiers {d : Dataset} (h : d ∈ datasets) :
    isIdentifier d.name = true ∧ ∀ f ∈ d.fields, isIdentifier f.name = true := by
  revert d
  decide

end Catalog

namespace Admission

variable {d : Dataset}

theorem fieldOf_eq_ok_iff {name : String} {f : CatalogField} :
    fieldOf d name = .ok f ↔ d.field? name = some f := by
  unfold fieldOf refuse
  cases d.field? name <;> simp

theorem identifier_eq_ok_iff {name : String} : identifier name = .ok () ↔ isIdentifier name = true := by
  unfold identifier refuse
  split <;> simp_all

theorem selection_names {f : Selection} (h : selection d f = .ok ()) :
    d.HasField f.name ∧ ∀ a ∈ f.alias?, isIdentifier a = true := by
  obtain ⟨known, hknown, hrest⟩ := bind_eq_ok_iff.mp h
  refine ⟨Dataset.hasField_of_field? (fieldOf_eq_ok_iff.mp hknown), ?_⟩
  intro a ha
  have halias : f.alias? = some a := ha
  simp only [halias] at hrest
  apply identifier_eq_ok_iff.mp
  split at hrest
  · exact hrest
  · exact hrest
  · split at hrest
    · exact hrest
    · cases hrest

theorem calculation_name {c : Calculation} (h : calculation c = .ok ()) : isIdentifier c.name = true := by
  obtain ⟨_, hname, -⟩ := bind_eq_ok_iff.mp h
  exact identifier_eq_ok_iff.mp hname

theorem condition_field {c : Condition} (h : condition d c = .ok ()) : d.HasField c.field := by
  obtain ⟨f, hf, -⟩ := bind_eq_ok_iff.mp h
  exact Dataset.hasField_of_field? (fieldOf_eq_ok_iff.mp hf)

theorem grouping_field {g : Grouping} (h : grouping d g = .ok ()) : d.HasField g.field := by
  obtain ⟨f, hf, -⟩ := bind_eq_ok_iff.mp h
  exact Dataset.hasField_of_field? (fieldOf_eq_ok_iff.mp hf)

theorem sortKey_eq_ok_iff {q : ReportQuery} {s : SortKey} :
    sortKey d q s = .ok () ↔ (d.field? s.field).isSome = true ∨ s.field ∈ outputNames q := by
  unfold sortKey refuse
  split <;> simp_all

end Admission

namespace ReportQuery

variable {q : ReportQuery} {d : Dataset}

structure IsAdmitted (q : ReportQuery) (d : Dataset) : Prop where
  isNamed : Text.isBlankText q.dataset = false
  selects : q.fields ≠ []
  dataset : Catalog.dataset? q.dataset = some d
  fields : ∀ f ∈ q.fields, Admission.selection d f = .ok ()
  calculations : ∀ c ∈ q.calculations, Admission.calculation c = .ok ()
  conditions : ∀ c ∈ q.conditions, Admission.condition d c = .ok ()
  groupings : ∀ g ∈ q.groupings, Admission.grouping d g = .ok ()
  sorts : ∀ s ∈ q.sorts, Admission.sortKey d q s = .ok ()

theorem validate_eq (q : ReportQuery) :
    q.validate =
      (if Text.isBlankText q.dataset then Admission.refuse .datasetRequired
      else if q.fields.isEmpty then Admission.refuse .fieldRequired
      else match Catalog.dataset? q.dataset with
        | none => Admission.refuse (.unknownDataset q.dataset)
        | some d => do
          q.fields.forM (Admission.selection d)
          q.calculations.forM Admission.calculation
          q.conditions.forM (Admission.condition d)
          q.groupings.forM (Admission.grouping d)
          q.sorts.forM (Admission.sortKey d q)) := by
  unfold validate
  cases Text.isBlankText q.dataset <;> cases q.fields.isEmpty <;> rfl

theorem validate_eq_ok_iff : q.validate = .ok () ↔ ∃ d, q.IsAdmitted d := by
  rw [validate_eq]
  constructor
  · intro h
    split at h
    · cases h
    · rename_i hnamed
      split at h
      · cases h
      · rename_i hselects
        split at h
        · cases h
        · rename_i d hdataset
          simp only [seq_eq_ok_iff, forM_eq_ok_iff] at h
          obtain ⟨hfields, hcalculations, hconditions, hgroupings, hsorts⟩ := h
          exact ⟨d, by simpa using hnamed, by simpa using hselects, hdataset, hfields, hcalculations, hconditions,
            hgroupings, hsorts⟩
  · rintro ⟨d, h⟩
    simp only [h.isNamed, h.selects, h.dataset, List.isEmpty_iff, if_false, Bool.false_eq_true]
    simp only [seq_eq_ok_iff, forM_eq_ok_iff]
    exact ⟨h.fields, h.calculations, h.conditions, h.groupings, h.sorts⟩

end ReportQuery

end PortfolioReports
