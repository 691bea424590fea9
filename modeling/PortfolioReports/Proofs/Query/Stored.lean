import PortfolioReports.Proofs.Query.Admission
import PortfolioReports.Proofs.Query.ReadBack
import PortfolioReports.Proofs.Query.Statement
import PortfolioReports.Proofs.Store.Column
import PortfolioReports.Records.Report

namespace PortfolioReports

open Json

namespace Condition

theorem operand_of_ofJson? {j : Json} {c : Condition} (h : ofJson? j = some c) {n : Nat} (hj : j.depth ≤ n + 1) :
    c.operand.isUndated = true ∧ c.operand.toJson.depth ≤ n := by
  simp only [ofJson?, Option.bind_eq_bind, Option.bind_eq_some_iff] at h
  obtain ⟨r, hr, field, -, operator, -, operand, hoperand, connective?, -, h⟩ := h
  cases h
  rcases Record.of_fieldOr hr hoperand with rfl | ⟨v, hdepth, hv⟩
  · exact ⟨rfl, n.zero_le⟩
  · obtain ⟨hundated, hle⟩ := Cell.of_ofJson? hv
    exact ⟨hundated, by simp only; omega⟩

end Condition

namespace ReportQuery

variable {q : ReportQuery}

theorem isStorable_of_ofJson? {j : Json} (hj : j.depth ≤ depthLimit) (h : ofJson? j = some q) : q.IsStorable := by
  simp only [ofJson?, Option.bind_eq_bind, Option.bind_eq_some_iff] at h
  obtain ⟨r, hr, dataset, -, fields, -, conditions, hconditions, groupings, -, sorts, -, calculations, -, limit, -,
    h⟩ := h
  cases h
  intro c hc
  rcases Record.of_fieldOr hr hconditions with rfl | ⟨v, hdepth, hv⟩
  · cases hc
  · obtain ⟨w, hdepth', hw⟩ := exists_of_asList? hv hc
    obtain ⟨hundated, hle⟩ := Condition.operand_of_ofJson? hw (n := 124) (by unfold depthLimit at hj; omega)
    exact ⟨hundated, by unfold depthLimit; omega⟩

theorem isStorable_empty : empty.IsStorable := List.forall_mem_nil _

theorem IsStorable.ofJson?_toJson (h : q.IsStorable) : ofJson? q.toJson.reread = some q.reread :=
  ReportQuery.ofJson?_toJson fun c hc => (h c hc).1

theorem IsStorable.reread (h : q.IsStorable) : q.reread.IsStorable :=
  isStorable_of_ofJson? (depth_reread_le h.depth_toJson_le) h.ofJson?_toJson

theorem IsStorable.readJson_print (h : q.IsStorable) (column : Nat) :
    Stored.readJson shape ofJson? column q.toJson.print = .ok q.reread :=
  Stored.readJson_print column h.depth_toJson_le h.ofJson?_toJson

end ReportQuery

theorem NewReport.query_isStorable {j : Json} {r : NewReport} (h : within? ofJson? j = some r) :
    r.query.IsStorable := by
  simp only [within?, ofJson?, Option.bind_eq_bind, Option.bind_eq_some_iff] at h
  obtain ⟨_, hr, name, -, description?, -, category, -, query, hquery, createdBy?, -, visibility, -, isTemplate, -,
    h⟩ := h
  cases h
  rcases Record.of_fieldOr hr hquery with rfl | ⟨v, hdepth, hv⟩
  · exact ReportQuery.isStorable_empty
  · exact ReportQuery.isStorable_of_ofJson? (hdepth.le.trans (j.depth_limited _)) hv

theorem ReportUpdate.query_isStorable {j : Json} {u : ReportUpdate} (h : within? ofJson? j = some u)
    {q : ReportQuery} (hq : u.query? = some q) : q.IsStorable := by
  simp only [within?, ofJson?, Option.bind_eq_bind, Option.bind_eq_some_iff] at h
  obtain ⟨_, hr, name, -, description?, -, category, -, query, hquery, visibility, -, isTemplate, -, h⟩ := h
  cases h
  simp only at hq
  subst hq
  obtain ⟨v, hdepth, hv⟩ := Record.of_optionalOr hr hquery
  exact ReportQuery.isStorable_of_ofJson? (hdepth.le.trans (j.depth_limited _)) hv

namespace Admission

variable {d : Dataset}

theorem comparedCells_reread (c : Condition) : comparedCells c.reread = (comparedCells c).map Cell.reread := by
  obtain ⟨field, operator, operand, connective?⟩ := c
  cases operator
  case isIn =>
    cases operand with
    | list items => exact Cell.rereadAll_eq items
    | float x =>
      simp only [Condition.reread, Cell.reread]
      split <;> rfl
    | _ => rfl
  all_goals rfl

theorem allowedValue_reread (f : CatalogField) (c : Cell) : allowedValue f c.reread = allowedValue f c := by
  cases c with
  | float x =>
    rw [Cell.reread]
    split <;> rfl
  | _ => rfl

theorem condition_reread (c : Condition) : condition d c.reread = condition d c := by
  have hcells : ∀ f, (comparedCells c.reread).forM (allowedValue f) = (comparedCells c).forM (allowedValue f) := by
    intro f
    rw [comparedCells_reread]
    induction comparedCells c with
    | nil => rfl
    | cons cell cells ih =>
      change (do allowedValue f cell.reread; (cells.map Cell.reread).forM (allowedValue f)) = _
      rw [allowedValue_reread, ih]
      rfl
  simp only [condition, hcells]
  rfl

end Admission

namespace ReportQuery

variable {q : ReportQuery}

theorem validate_reread (h : q.validate = .ok ()) : q.reread.validate = .ok () := by
  obtain ⟨d, h⟩ := validate_eq_ok_iff.mp h
  refine validate_eq_ok_iff.mpr ⟨d, { h with conditions := ?_ }⟩
  refine List.forall_mem_map.mpr fun c hc => ?_
  rw [Admission.condition_reread, h.conditions c hc]

end ReportQuery

end PortfolioReports
