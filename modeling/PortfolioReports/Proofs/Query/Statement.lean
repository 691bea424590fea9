import Mathlib.Tactic.Common
import PortfolioReports.Query.Statement

namespace PortfolioReports

/-- Kept when texts are put behind one another. -/
structure IsJoinable (P : String → Prop) : Prop where
  empty : P ""
  append : ∀ {s t : String}, P s → P t → P (s ++ t)

theorem IsJoinable.intercalate {P : String → Prop} (hP : IsJoinable P) {separator : String} (hs : P separator)
    {l : List String} (h : ∀ t ∈ l, P t) : P (separator.intercalate l) := by
  induction l with
  | nil => exact hP.empty
  | cons t l ih =>
    rw [List.forall_mem_cons] at h
    cases l with
    | nil => simpa using h.1
    | cons t' l =>
      rw [String.intercalate_cons_cons]
      exact hP.append (hP.append h.1 hs) (ih h.2)

theorem IsJoinable.part {P : String → Prop} (hP : IsJoinable P) {lead separator : String} (hlead : P lead)
    (hseparator : P separator) {items : List String} (hitems : ∀ s ∈ items, P s) :
    P (ReportQuery.part lead separator items) := by
  unfold ReportQuery.part
  split
  · exact hP.empty
  · exact hP.append hlead (hP.intercalate hseparator hitems)

theorem isDigit_of_mem_toString {n : Nat} {c : Char} (h : c ∈ (toString n).toList) : c.isDigit = true := by
  have hdigits : (toString n).toList = Nat.toDigits 10 n := String.toList_ofList
  rw [hdigits] at h
  exact Nat.isDigit_of_mem_toDigits (by omega) (by omega) h

namespace Condition

def isWellShaped (c : Condition) : Bool :=
  match c.operator, c.operand with
  | .isIn, .list _ => true
  | .isIn, _ => false
  | .between, .list [_, _] => true
  | .between, _ => false
  | _, _ => true

def bound (c : Condition) : List Cell :=
  match c.operator, c.operand with
  | .isNull, _ | .isNotNull, _ => []
  | .like, v => [.text ("%" ++ v.display ++ "%")]
  | .isIn, .list items => [.list items]
  | .between, .list [low, high] => [low, high]
  | .isIn, _ | .between, _ => []
  | _, v => [v]

def isDisjunctive (c : Condition) : Bool := c.connective? = some .or

end Condition

def Operator.ending : Operator → String
  | .eq | .unknown => " = ?"
  | .ne => " != ?"
  | .gt => " > ?"
  | .gte => " >= ?"
  | .lt => " < ?"
  | .lte => " <= ?"
  | .like => " ILIKE ?"
  | .isIn => " = ANY(?)"
  | .between => " BETWEEN ? AND ?"
  | .isNull => " IS NULL"
  | .isNotNull => " IS NOT NULL"

namespace Condition

def text (c : Condition) : String := c.field ++ c.operator.ending

theorem simple_eq (c : Condition) (symbol : String) :
    clause?.simple c symbol = some ⟨c.field ++ (" " ++ symbol ++ " ?"), [c.operand]⟩ := by
  rw [← String.append_assoc, ← String.append_assoc]
  rfl

theorem clause?_eq (c : Condition) :
    c.clause? = if c.isWellShaped then some ⟨c.text, c.bound⟩ else none := by
  obtain ⟨field, operator, operand, connective?⟩ := c
  cases operator
  case isIn => cases operand <;> rfl
  case between =>
    cases operand with
    | list items => rcases items with _ | ⟨low, _ | ⟨high, _ | ⟨_, _⟩⟩⟩ <;> rfl
    | _ => rfl
  case like => rfl
  case isNull => rfl
  case isNotNull => rfl
  all_goals exact simple_eq _ _

end Condition

theorem Selection.expression_eq (f : Selection) :
    f.expression = match f.aggregate? with
      | some a => Vocabulary.name a ++ "(" ++ f.name ++ ")"
      | none => f.name := by
  rfl

namespace ReportQuery

variable {q : ReportQuery} {s : Statement}

theorem selectItem_eq (f : Selection) :
    selectItem f = match f.alias? with
      | some a => f.expression ++ " AS " ++ a
      | none => f.expression := by
  rfl

theorem calculationItem_eq (c : Calculation) :
    calculationItem c = "(" ++ c.expression ++ ") AS " ++ c.name := by
  rfl

theorem groupTerm_eq (g : Grouping) :
    groupTerm g = match g.grain.unit? with
      | some unit => "date_trunc('" ++ unit ++ "', " ++ g.field ++ ")"
      | none => g.field := by
  rfl

theorem orderTerm_eq (s : SortKey) :
    orderTerm s = s.field ++ " " ++ if s.isDescending then "DESC" else "ASC" := by
  rfl

theorem clauses_eq (q : ReportQuery) :
    q.clauses = (q.conditions.filter Condition.isWellShaped).map fun c => ⟨c.text, c.bound⟩ := by
  unfold clauses
  induction q.conditions with
  | nil => rfl
  | cons c conditions ih =>
    rw [List.filterMap_cons, Condition.clause?_eq, ih]
    cases hc : c.isWellShaped <;> simp [hc]

def dataLead (q : ReportQuery) : String := "SELECT " ++ ", ".intercalate q.selectItems ++ " FROM " ++ q.dataset

def countLead (q : ReportQuery) : String := "SELECT COUNT(*) FROM " ++ q.dataset

def tail (q : ReportQuery) : String := q.groupPart ++ q.orderPart ++ q.limitPart

def dataStatement (q : ReportQuery) : Statement := ⟨q.dataLead ++ q.wherePart ++ q.tail, q.arguments⟩

def countStatement (q : ReportQuery) : Statement := ⟨q.countLead ++ q.wherePart, q.arguments⟩

theorem dataStatement_eq (q : ReportQuery) :
    q.dataStatement = ⟨"SELECT " ++ ", ".intercalate q.selectItems ++ " FROM " ++ q.dataset ++ q.wherePart ++
      q.groupPart ++ q.orderPart ++ q.limitPart, q.arguments⟩ := by
  simp only [dataStatement, dataLead, tail, String.append_assoc]

theorem limitPart_eq (q : ReportQuery) :
    q.limitPart = if 0 < q.limit then " LIMIT " ++ toString q.limit.toInt.toNat else "" := by
  unfold limitPart
  split
  · rename_i hpositive
    have hint : ((q.limit.toInt.toNat : Nat) : Int) = q.limit.toInt :=
      Int.toNat_of_nonneg (Int.le_of_lt (Int64.lt_iff_toInt_lt.mp hpositive))
    conv_lhs => rw [← hint]
    rfl
  · rfl

structure IsCompilable (q : ReportQuery) : Prop where
  dataset : Text.isBlankText q.dataset = false
  selects : q.fields ≠ [] ∨ q.calculations ≠ []
  conjunctive : ∀ c ∈ q.conditions, c.isDisjunctive = false

theorem checkDataset_eq_ok_iff : q.checkDataset = .ok () ↔ Text.isBlankText q.dataset = false := by
  unfold checkDataset
  split <;> simp_all

theorem checkConnectives_eq (q : ReportQuery) :
    q.checkConnectives = match q.conditions.find? Condition.isDisjunctive with
      | some c => .error (.invalidConfig (.disjunction c.field))
      | none => .ok () := by
  rfl

theorem checkConnectives_eq_ok_iff :
    q.checkConnectives = .ok () ↔ ∀ c ∈ q.conditions, c.isDisjunctive = false := by
  rw [checkConnectives_eq]
  cases h : q.conditions.find? Condition.isDisjunctive with
  | none => simpa using h
  | some c =>
    simp only [reduceCtorEq, false_iff]
    intro hall
    have hc := List.find?_some h
    simp [hall c (List.mem_of_find?_eq_some h)] at hc

theorem compile_eq_ok_iff : q.compile = .ok s ↔ q.IsCompilable ∧ s = q.dataStatement := by
  rw [dataStatement_eq]
  constructor
  · intro h
    simp only [compile, bind, Except.bind] at h
    split at h
    · cases h
    · rename_i hdataset
      split at h
      · cases h
      · rename_i hselects
        split at h
        · cases h
        · rename_i hconnectives
          have hsome : q.fields ≠ [] ∨ q.calculations ≠ [] := by
            by_contra hnone
            simp_all
          exact ⟨⟨checkDataset_eq_ok_iff.mp hdataset, hsome, checkConnectives_eq_ok_iff.mp hconnectives⟩,
            (Except.ok.inj h).symm⟩
  · rintro ⟨⟨hdataset, hselects, hconjunctive⟩, rfl⟩
    have hsome : (q.fields.isEmpty && q.calculations.isEmpty) = false := by
      rcases hselects with h | h <;> simp [h]
    simp only [compile, checkDataset_eq_ok_iff.mpr hdataset, checkConnectives_eq_ok_iff.mpr hconjunctive, hsome]
    rfl

theorem compileCount_eq_ok_iff :
    q.compileCount = .ok s ↔
      Text.isBlankText q.dataset = false ∧ (∀ c ∈ q.conditions, c.isDisjunctive = false) ∧
        s = q.countStatement := by
  constructor
  · intro h
    simp only [compileCount, bind, Except.bind] at h
    split at h
    · cases h
    · rename_i hdataset
      split at h
      · cases h
      · rename_i hconnectives
        exact ⟨checkDataset_eq_ok_iff.mp hdataset, checkConnectives_eq_ok_iff.mp hconnectives,
          (Except.ok.inj h).symm⟩
  · rintro ⟨hdataset, hconjunctive, rfl⟩
    simp only [compileCount, checkDataset_eq_ok_iff.mpr hdataset, checkConnectives_eq_ok_iff.mpr hconjunctive]
    rfl

theorem IsCompilable.compile_eq (h : q.IsCompilable) : q.compile = .ok q.dataStatement :=
  compile_eq_ok_iff.mpr ⟨h, rfl⟩

theorem IsCompilable.compileCount_eq (h : q.IsCompilable) : q.compileCount = .ok q.countStatement :=
  compileCount_eq_ok_iff.mpr ⟨h.dataset, h.conjunctive, rfl⟩

end ReportQuery

end PortfolioReports
