import PortfolioReports.Proofs.Query.Admission
import PortfolioReports.Proofs.Query.Statement

/-!
The gate does not look at what a field is compared with where the operator has no name, nor where a single value is
expected and a list is given. A statement compares for equality there too.
-/

namespace PortfolioReports

def Cell.texts : Cell → List String
  | .text s => [s]
  | .list items => items.filterMap Cell.asText?
  | _ => []

namespace Clause

def boundTexts (clause : Clause) : List String := clause.args.flatMap Cell.texts

def ComparesEqual (clause : Clause) (field : String) : Prop :=
  clause.text = field ++ " = ?" ∨ clause.text = field ++ " != ?" ∨ clause.text = field ++ " = ANY(?)"

end Clause

namespace Condition

/-- Whatever text a field with a closed list of values is compared with for equality, is one of the list. -/
def BindsListed (d : Dataset) (c : Condition) : Prop :=
  ∀ clause f, c.clause? = some clause → clause.ComparesEqual c.field → d.field? c.field = some f →
    f.allowedValues ≠ [] → ∀ s ∈ clause.boundTexts, s ∈ f.allowedValues

def isOverlooked (c : Condition) : Bool :=
  match c.operator, c.operand with
  | .unknown, _ | .eq, .list _ | .ne, .list _ => true
  | _, _ => false

theorem comparesEqual_text_iff (c : Condition) (args : List Cell) :
    Clause.ComparesEqual ⟨c.text, args⟩ c.field ↔
      c.operator = .eq ∨ c.operator = .unknown ∨ c.operator = .ne ∨ c.operator = .isIn := by
  have hending : Clause.ComparesEqual ⟨c.text, args⟩ c.field ↔
      c.operator.ending = " = ?" ∨ c.operator.ending = " != ?" ∨ c.operator.ending = " = ANY(?)" := by
    simp only [Clause.ComparesEqual, text, String.append_right_inj]
  rw [hending]
  cases c.operator <;> decide

theorem mem_comparedCells {c : Condition} (hlooked : c.isOverlooked = false) {clause : Clause}
    (hclause : c.clause? = some clause) (hequal : clause.ComparesEqual c.field) {s : String}
    (hs : s ∈ clause.boundTexts) : .text s ∈ Admission.comparedCells c := by
  rw [clause?_eq] at hclause
  split at hclause
  · cases hclause
    rw [comparesEqual_text_iff] at hequal
    obtain ⟨field, operator, operand, connective?⟩ := c
    simp only at hequal
    rcases hequal with rfl | rfl | rfl | rfl
    case inl | inr.inr.inl =>
      cases operand with
      | text t => simpa [Clause.boundTexts, bound, Cell.texts, Admission.comparedCells] using hs
      | list items => cases hlooked
      | _ => cases hs
    case inr.inl => cases hlooked
    case inr.inr.inr =>
      cases operand with
      | list items =>
        have hs : s ∈ items.filterMap Cell.asText? := by simpa [Clause.boundTexts, bound, Cell.texts] using hs
        obtain ⟨cell, hcell, htext⟩ := List.mem_filterMap.mp hs
        cases cell with
        | text t =>
          cases htext
          exact hcell
        | _ => cases htext
      | _ => cases hs
  · cases hclause

theorem bindsListed_of_admitted {d : Dataset} {c : Condition} (hadmitted : Admission.condition d c = .ok ())
    (hlooked : c.isOverlooked = false) : c.BindsListed d := by
  intro clause f hclause hequal hfield hclosed s hs
  obtain ⟨known, hknown, hchecks⟩ := bind_eq_ok_iff.mp hadmitted
  obtain rfl : known = f := Option.some.inj ((Admission.fieldOf_eq_ok_iff.mp hknown).symm.trans hfield)
  have hcells : (Admission.comparedCells c).forM (Admission.allowedValue known) = .ok () := by
    have hopen : known.allowedValues.isEmpty = false := by simpa using hclosed
    cases hfilterable : known.filterable with
    | false => simp [hfilterable, Admission.refuse, bind, Except.bind] at hchecks
    | true => simpa [hfilterable, hopen] using hchecks
  have hallowed := forM_eq_ok_iff.mp hcells _ (mem_comparedCells hlooked hclause hequal hs)
  simp only [Admission.allowedValue] at hallowed
  split at hallowed
  · rename_i hmem
    exact List.contains_iff_mem.mp hmem
  · cases hallowed

end Condition

namespace ReportQuery

/-- What is written of an admitted query are the clauses of its conditions, and these bind values of the closed lists
only, just when those that the gate overlooks do. -/
theorem bindsListed_iff_overlooked {q : ReportQuery} {s : Statement} (hvalid : q.validate = .ok ())
    (hs : q.compile = .ok s) :
    ∃ d, Catalog.dataset? q.dataset = some d ∧
      s = ⟨q.dataLead ++ part " WHERE " " AND " (q.clauses.map Clause.text) ++ q.tail,
        q.clauses.flatMap Clause.args⟩ ∧
      ((∀ c ∈ q.conditions, c.BindsListed d) ↔
        ∀ c ∈ q.conditions, c.isOverlooked = true → c.BindsListed d) := by
  obtain ⟨d, hd⟩ := validate_eq_ok_iff.mp hvalid
  refine ⟨d, hd.dataset, (compile_eq_ok_iff.mp hs).2, fun h c hc _ => h c hc, fun h c hc => ?_⟩
  cases hlooked : c.isOverlooked with
  | true => exact h c hc hlooked
  | false => exact Condition.bindsListed_of_admitted (hd.conditions c hc) hlooked

def statusQuery (conditions : List Condition) : ReportQuery :=
  ⟨"projects", [⟨"name", none, none, 0, none, false, none⟩], conditions, [], [], [], 0⟩

def listedStatus : ReportQuery := statusQuery
  [⟨"status", .eq, .text "active", none⟩, ⟨"status", .isIn, .list [.text "pending", .null], none⟩,
   ⟨"status", .unknown, .text "completed", none⟩, ⟨"status", .ne, .list [.text "cancelled"], none⟩,
   ⟨"status", .gt, .text "bogus", none⟩]

theorem bindsListed_iff_overlooked_listedStatus :
    listedStatus.validate = .ok () ∧ ∃ s, listedStatus.compile = .ok s ∧
      s.args = [.text "active", .list [.text "pending", .null], .text "completed", .list [.text "cancelled"],
        .text "bogus"] ∧
      ∃ d, Catalog.dataset? "projects" = some d ∧ ((∀ c ∈ listedStatus.conditions, c.BindsListed d) ↔
        ∀ c ∈ listedStatus.conditions, c.isOverlooked = true → c.BindsListed d) := by
  have hvalid : listedStatus.validate = .ok () := by rfl
  have hcompiled : listedStatus.compile = .ok listedStatus.dataStatement := by rfl
  obtain ⟨d, hd, -, hiff⟩ := bindsListed_iff_overlooked hvalid hcompiled
  exact ⟨hvalid, _, hcompiled, rfl, d, hd, hiff⟩

def unnamedOperator : Json := .object
  [("dataset", .text "projects"), ("fields", .list [.object [("name", .text "name")]]),
   ("filters", .list [.object [("field", .text "status"), ("operator", .text "equals"), ("value", .text "bogus")]])]

theorem unnamedOperator_binds_unlisted :
    Json.within? ofJson? unnamedOperator = some (statusQuery [⟨"status", .unknown, .text "bogus", none⟩]) ∧
      (statusQuery [⟨"status", .unknown, .text "bogus", none⟩]).validate = .ok () ∧
      (statusQuery [⟨"status", .unknown, .text "bogus", none⟩]).compile =
        .ok ⟨"SELECT name FROM projects WHERE status = ?", [.text "bogus"]⟩ ∧
      Catalog.dataset? "projects" = some Catalog.projects ∧
      ¬ ∀ c ∈ (statusQuery [⟨"status", .unknown, .text "bogus", none⟩]).conditions,
        c.BindsListed Catalog.projects := by
  refine ⟨by rfl, by rfl, by rfl, by rfl, fun h => ?_⟩
  have hbinds := h _ (List.mem_singleton.mpr rfl) _ _ rfl (.inl rfl) rfl (by decide) "bogus" (by decide)
  exact absurd hbinds (by decide)

end ReportQuery

end PortfolioReports
