import PortfolioReports.Proofs.Query.Placeholders

namespace PortfolioReports

/-- Operands that an operator does not tell apart by their shape: for `in` whether there is a list, and for `between`
whether there is a list of two. -/
def Operator.SameShape : Operator → Cell → Cell → Prop
  | .isIn, v, v' => v.asList?.isSome = v'.asList?.isSome
  | .between, v, v' => v.asList?.any (·.length == 2) = v'.asList?.any (·.length == 2)
  | _, _, _ => True

structure Condition.SameButOperand (c c' : Condition) : Prop where
  field : c.field = c'.field
  operator : c.operator = c'.operator
  connective : c.connective? = c'.connective?
  shape : c.operator.SameShape c.operand c'.operand

structure ReportQuery.SameButOperands (q q' : ReportQuery) : Prop where
  rest : { q with conditions := [] } = { q' with conditions := [] }
  conditions : List.Forall₂ Condition.SameButOperand q.conditions q'.conditions

def Statement.outline (s : Statement) : String × Nat := (s.sql, s.args.length)

namespace Condition

theorem isWellShaped_eq (c : Condition) :
    c.isWellShaped = match c.operator with
      | .isIn => c.operand.asList?.isSome
      | .between => c.operand.asList?.any (·.length == 2)
      | _ => true := by
  obtain ⟨field, operator, operand, connective?⟩ := c
  cases operator
  case isIn => cases operand <;> rfl
  case between =>
    cases operand with
    | list items => rcases items with _ | ⟨low, _ | ⟨high, _ | ⟨_, _⟩⟩⟩ <;> rfl
    | _ => rfl
  all_goals rfl

def outline (c : Condition) : String × Nat := (c.text, c.operator.arity)

namespace SameButOperand

variable {c c' : Condition}

theorem isWellShaped (h : c.SameButOperand c') : c.isWellShaped = c'.isWellShaped := by
  have hshape := h.shape
  rw [isWellShaped_eq, isWellShaped_eq, ← h.operator]
  generalize c.operator = o at hshape
  cases o
  case isIn => exact hshape
  case between => exact hshape
  all_goals rfl

theorem outline (h : c.SameButOperand c') : c.outline = c'.outline := by
  rw [Condition.outline, Condition.outline, text, text, h.field, h.operator]

theorem isDisjunctive (h : c.SameButOperand c') : c.isDisjunctive = c'.isDisjunctive := by
  rw [Condition.isDisjunctive, Condition.isDisjunctive, h.connective]

end SameButOperand

variable {conditions conditions' : List Condition}

theorem outlines_eq (h : List.Forall₂ SameButOperand conditions conditions') :
    (conditions.filter isWellShaped).map outline = (conditions'.filter isWellShaped).map outline := by
  induction h with
  | nil => rfl
  | @cons c c' _ _ hc _ ih =>
    cases hshape : c'.isWellShaped with
    | true =>
      rw [List.filter_cons_of_pos (hc.isWellShaped.trans hshape), List.filter_cons_of_pos hshape, List.map_cons,
        List.map_cons, hc.outline, ih]
    | false =>
      rw [List.filter_cons_of_neg (by rw [hc.isWellShaped, hshape]; exact Bool.false_ne_true),
        List.filter_cons_of_neg (by rw [hshape]; exact Bool.false_ne_true), ih]

theorem firstDisjunctive_eq (h : List.Forall₂ SameButOperand conditions conditions') :
    (conditions.find? isDisjunctive).map field = (conditions'.find? isDisjunctive).map field := by
  induction h with
  | nil => rfl
  | @cons c c' _ _ hc _ ih =>
    rw [List.find?_cons, List.find?_cons, hc.isDisjunctive]
    cases c'.isDisjunctive with
    | true => exact congrArg some hc.field
    | false => exact ih

end Condition

namespace ReportQuery

theorem wherePart_eq_of_outlines (q : ReportQuery) :
    q.wherePart = part " WHERE " " AND "
      (((q.conditions.filter Condition.isWellShaped).map Condition.outline).map Prod.fst) := by
  rw [wherePart_eq, List.map_map]
  rfl

theorem length_arguments (q : ReportQuery) :
    q.arguments.length = (((q.conditions.filter Condition.isWellShaped).map Condition.outline).map Prod.snd).sum := by
  rw [arguments_eq, Condition.boundByAll, List.length_flatMap, List.map_map]
  exact congrArg List.sum (List.map_congr_left fun c hc => Condition.length_bound (List.mem_filter.mp hc).2)

theorem checkConnectives_eq_of_first (q : ReportQuery) :
    q.checkConnectives = match (q.conditions.find? Condition.isDisjunctive).map Condition.field with
      | some field => .error (.invalidConfig (.disjunction field))
      | none => .ok () := by
  rw [checkConnectives_eq]
  cases q.conditions.find? Condition.isDisjunctive <;> rfl

theorem outline_compile (q : ReportQuery) :
    q.compile.map Statement.outline = (do
      q.checkDataset
      if q.fields.isEmpty && q.calculations.isEmpty then throw (.invalidConfig .fieldOrCalculationRequired)
      q.checkConnectives
      pure (q.dataLead ++ q.wherePart ++ q.tail, q.arguments.length)) := by
  simp only [compile, dataLead, tail, String.append_assoc]
  cases q.checkDataset with
  | error cause => rfl
  | ok _ =>
    cases q.fields.isEmpty && q.calculations.isEmpty with
    | true => rfl
    | false => cases q.checkConnectives <;> rfl

theorem outline_compileCount (q : ReportQuery) :
    q.compileCount.map Statement.outline = (do
      q.checkDataset
      q.checkConnectives
      pure (q.countLead ++ q.wherePart, q.arguments.length)) := by
  unfold compileCount
  cases q.checkDataset with
  | error cause => rfl
  | ok _ => cases q.checkConnectives <;> rfl

/-- The error is the same, or the text and the number of arguments are, for the data and for the count. -/
theorem outline_compile_eq {q q' : ReportQuery} (h : q.SameButOperands q') :
    q.compile.map Statement.outline = q'.compile.map Statement.outline ∧
      q.compileCount.map Statement.outline = q'.compileCount.map Statement.outline := by
  have hdataset : q.checkDataset = q'.checkDataset := (congrArg checkDataset h.rest :)
  have hchecks : q.checkConnectives = q'.checkConnectives := by
    rw [checkConnectives_eq_of_first, checkConnectives_eq_of_first, Condition.firstDisjunctive_eq h.conditions]
  have houtlines := Condition.outlines_eq h.conditions
  have hwhere : q.wherePart = q'.wherePart := by
    rw [wherePart_eq_of_outlines, wherePart_eq_of_outlines, houtlines]
  have hlength : q.arguments.length = q'.arguments.length := by
    rw [length_arguments, length_arguments, houtlines]
  constructor
  · have hselects : (q.fields.isEmpty && q.calculations.isEmpty) = (q'.fields.isEmpty && q'.calculations.isEmpty) :=
      congrArg (fun p => p.fields.isEmpty && p.calculations.isEmpty) h.rest
    have hlead : q.dataLead = q'.dataLead := (congrArg dataLead h.rest :)
    have htail : q.tail = q'.tail := (congrArg tail h.rest :)
    rw [outline_compile, outline_compile, hdataset, hselects, hchecks, hlead, hwhere, htail, hlength]
  · have hlead : q.countLead = q'.countLead := (congrArg countLead h.rest :)
    rw [outline_compileCount, outline_compileCount, hdataset, hchecks, hlead, hwhere, hlength]

def plainQuery : ReportQuery where
  dataset := "projects"
  fields := [⟨"name", none, none, 0, none, false, none⟩]
  conditions :=
    [⟨"name", .like, .text "north", none⟩, ⟨"status", .eq, .text "active", none⟩, ⟨"region", .unknown, .null, none⟩,
     ⟨"status", .isIn, .list [.text "active"], some .and⟩, ⟨"area", .between, .list [.int 1, .int 2], none⟩,
     ⟨"area", .between, .int 1, none⟩, ⟨"region", .isNull, .null, none⟩]
  groupings := []
  sorts := []
  calculations := []
  limit := 0

def injectingQuery : ReportQuery :=
  { plainQuery with
    conditions :=
      [⟨"name", .like, .text "' OR 1=1 --", none⟩, ⟨"status", .eq, .list [.text "?", .null], none⟩,
       ⟨"region", .unknown, .text "x; DROP TABLE projects", none⟩, ⟨"status", .isIn, .list [], some .and⟩,
       ⟨"area", .between, .list [.text "0 OR 1=1", .null], none⟩,
       ⟨"area", .between, .list [.int 1, .int 2, .int 3], none⟩, ⟨"region", .isNull, .text "NOT NULL", none⟩] }

theorem outline_compile_eq_injectingQuery :
    plainQuery.SameButOperands injectingQuery ∧
      injectingQuery.compile.map Statement.outline = .ok
        ("SELECT name FROM projects WHERE name ILIKE ? AND status = ? AND region = ? AND status = ANY(?)" ++
          " AND area BETWEEN ? AND ? AND region IS NULL", 6) ∧
      injectingQuery.compileCount.map Statement.outline = .ok
        ("SELECT COUNT(*) FROM projects WHERE name ILIKE ? AND status = ? AND region = ? AND status = ANY(?)" ++
          " AND area BETWEEN ? AND ? AND region IS NULL", 6) := by
  have hsame : plainQuery.SameButOperands injectingQuery := by
    refine ⟨rfl, ?_⟩
    repeat' constructor
  obtain ⟨hdata, hcount⟩ := outline_compile_eq hsame
  exact ⟨hsame, hdata.symm.trans (by rfl), hcount.symm.trans (by rfl)⟩

end ReportQuery

end PortfolioReports
