import PortfolioReports.Fault
import PortfolioReports.Query.Basic
import PortfolioReports.Query.Catalog

namespace PortfolioReports

def isIdentifierStart (c : Char) : Bool := c.isAlpha || c = '_'

def isIdentifierRest (c : Char) : Bool := c.isAlphanum || c = '_'

def isIdentifier (s : String) : Bool :=
  match s.toList with
  | [] => false
  | c :: cs => isIdentifierStart c && cs.all isIdentifierRest

namespace Admission

def refuse {α : Type} (cause : ConfigFault) : Except Fault α := .error (.invalidConfig cause)

def identifier (name : String) : Except Fault Unit :=
  if isIdentifier name then .ok () else refuse (.invalidIdentifier name)

def fieldOf (d : Dataset) (name : String) : Except Fault CatalogField :=
  match d.field? name with
  | some f => .ok f
  | none => refuse (.unknownField name d.name)

def selection (d : Dataset) (f : Selection) : Except Fault Unit := do
  let known ← fieldOf d f.name
  match f.aggregate? with
  | none | some .count => pure ()
  | some a => unless known.aggregatable do refuse (.notAggregatable f.name a)
  match f.alias? with
  | some a => identifier a
  | none => pure ()

def calculation (c : Calculation) : Except Fault Unit := do
  identifier c.name
  if Text.isBlankText c.expression then refuse (.emptyExpression c.name)

def comparedCells (c : Condition) : List Cell :=
  match c.operator, c.operand with
  | .eq, v | .ne, v => [v]
  | .isIn, .list items => items
  | _, _ => []

def allowedValue (f : CatalogField) (c : Cell) : Except Fault Unit :=
  match c with
  | .text s =>
    if f.allowedValues.contains s then .ok () else refuse (.valueNotAllowed s f.name f.allowedValues)
  | _ => .ok ()

def condition (d : Dataset) (c : Condition) : Except Fault Unit := do
  let f ← fieldOf d c.field
  unless f.filterable do refuse (.notFilterable c.field)
  unless f.allowedValues.isEmpty do (comparedCells c).forM (allowedValue f)

def grouping (d : Dataset) (g : Grouping) : Except Fault Unit := do
  let f ← fieldOf d g.field
  unless f.groupable do refuse (.notGroupable g.field)
  if g.grain ≠ .none ∧ f.type ≠ .date then refuse (.grainNeedsDate g.field f.type)

def outputNames (q : ReportQuery) : List String :=
  q.fields.map Selection.outputKey ++ q.calculations.map Calculation.name

def sortKey (d : Dataset) (q : ReportQuery) (s : SortKey) : Except Fault Unit :=
  if (d.field? s.field).isSome || (outputNames q).contains s.field then .ok ()
  else refuse (.unknownSortField s.field)

end Admission

open Admission in
def ReportQuery.validate (q : ReportQuery) : Except Fault Unit := do
  if Text.isBlankText q.dataset then refuse .datasetRequired
  if q.fields.isEmpty then refuse .fieldRequired
  match Catalog.dataset? q.dataset with
  | none => refuse (.unknownDataset q.dataset)
  | some d =>
    q.fields.forM (selection d)
    q.calculations.forM calculation
    q.conditions.forM (condition d)
    q.groupings.forM (grouping d)
    q.sorts.forM (sortKey d q)

end PortfolioReports
