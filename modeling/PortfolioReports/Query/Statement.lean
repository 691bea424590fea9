import PortfolioReports.Fault
import PortfolioReports.Query.Basic

namespace PortfolioReports

structure Statement where
  sql : String
  args : List Cell

structure Clause where
  text : String
  args : List Cell

namespace Condition

/-- The clause of a condition; none where the operand has the wrong shape for the operator. -/
def clause? (c : Condition) : Option Clause :=
  match c.operator with
  | .eq | .unknown => simple "="
  | .ne => simple "!="
  | .gt => simple ">"
  | .gte => simple ">="
  | .lt => simple "<"
  | .lte => simple "<="
  | .like => some ⟨s!"{c.field} ILIKE ?", [.text s!"%{c.operand.display}%"]⟩
  | .isIn => match c.operand with
    | .list items => some ⟨s!"{c.field} = ANY(?)", [.list items]⟩
    | _ => none
  | .between => match c.operand with
    | .list [low, high] => some ⟨s!"{c.field} BETWEEN ? AND ?", [low, high]⟩
    | _ => none
  | .isNull => some ⟨s!"{c.field} IS NULL", []⟩
  | .isNotNull => some ⟨s!"{c.field} IS NOT NULL", []⟩
where
  simple (symbol : String) : Option Clause := some ⟨s!"{c.field} {symbol} ?", [c.operand]⟩

end Condition

namespace ReportQuery

def clauses (q : ReportQuery) : List Clause := q.conditions.filterMap Condition.clause?

def arguments (q : ReportQuery) : List Cell := q.clauses.flatMap Clause.args

def part (lead separator : String) (items : List String) : String :=
  if items.isEmpty then "" else lead ++ separator.intercalate items

def selectItem (f : Selection) : String :=
  match f.alias? with
  | some a => s!"{f.expression} AS {a}"
  | none => f.expression

def calculationItem (c : Calculation) : String := s!"({c.expression}) AS {c.name}"

def selectItems (q : ReportQuery) : List String :=
  q.fields.map selectItem ++ q.calculations.map calculationItem

def wherePart (q : ReportQuery) : String := part " WHERE " " AND " (q.clauses.map Clause.text)

def groupTerm (g : Grouping) : String :=
  match g.grain.unit? with
  | some unit => s!"date_trunc('{unit}', {g.field})"
  | none => g.field

def groupPart (q : ReportQuery) : String := part " GROUP BY " ", " (q.groupings.map groupTerm)

def orderTerm (s : SortKey) : String := s!"{s.field} " ++ if s.isDescending then "DESC" else "ASC"

def orderPart (q : ReportQuery) : String := part " ORDER BY " ", " (q.sorts.map orderTerm)

def limitPart (q : ReportQuery) : String := if 0 < q.limit then s!" LIMIT {q.limit.toInt}" else ""

/-- Conditions are joined by AND only, so a request for OR is refused. -/
def checkConnectives (q : ReportQuery) : Except Fault Unit :=
  match q.conditions.find? fun c => c.connective? = some .or with
  | some c => .error (.invalidConfig (.disjunction c.field))
  | none => .ok ()

def checkDataset (q : ReportQuery) : Except Fault Unit :=
  if Text.isBlankText q.dataset then .error (.invalidConfig .datasetRequired) else .ok ()

def compile (q : ReportQuery) : Except Fault Statement := do
  q.checkDataset
  if q.fields.isEmpty && q.calculations.isEmpty then
    throw (.invalidConfig .fieldOrCalculationRequired)
  q.checkConnectives
  pure ⟨"SELECT " ++ ", ".intercalate q.selectItems ++ " FROM " ++ q.dataset ++ q.wherePart ++
    q.groupPart ++ q.orderPart ++ q.limitPart, q.arguments⟩

def compileCount (q : ReportQuery) : Except Fault Statement := do
  q.checkDataset
  q.checkConnectives
  pure ⟨"SELECT COUNT(*) FROM " ++ q.dataset ++ q.wherePart, q.arguments⟩

end ReportQuery

end PortfolioReports
