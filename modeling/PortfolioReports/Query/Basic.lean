import PortfolioReports.Json.Typed
import PortfolioReports.Query.Terms
import PortfolioReports.Table.Row

namespace PortfolioReports

structure Selection where
  name : String
  alias? : Option String
  aggregate? : Option Aggregate
  sortOrder : Int32
  format? : Option String
  isHidden : Bool
  dataType? : Option String

structure Condition where
  field : String
  operator : Operator
  operand : Cell
  connective? : Option Connective

structure Grouping where
  field : String
  grain : Grain

structure SortKey where
  field : String
  direction : String

structure Calculation where
  name : String
  expression : String
  dataType? : Option String

structure ReportQuery where
  dataset : String
  fields : List Selection
  conditions : List Condition
  groupings : List Grouping
  sorts : List SortKey
  calculations : List Calculation
  limit : Int64

def ReportQuery.empty : ReportQuery := ⟨"", [], [], [], [], [], 0⟩

namespace Selection

def expression (f : Selection) : String :=
  match f.aggregate? with
  | some a => s!"{Vocabulary.name a}({f.name})"
  | none => f.name

def outputKey (f : Selection) : String := f.alias?.getD f.expression

end Selection

def SortKey.isDescending (s : SortKey) : Bool := Text.sameIgnoringCase s.direction "desc"

def columnsOfFields (fields : List Selection) : List Column :=
  ((fields.filter fun f => !f.isHidden).mergeSort fun a b => a.sortOrder ≤ b.sortOrder).map
    fun f => Column.ofKey f.outputKey

def ReportQuery.columns (q : ReportQuery) : List Column :=
  columnsOfFields q.fields ++ q.calculations.map fun c => Column.ofKey c.name

section Reading

open Json

namespace Selection

def ofJson? (j : Json) : Option Selection := do
  let r ← j.record? ["name", "alias", "aggregate", "sort_order", "format", "is_hidden", "data_type"]
  let name ← r.field "name" asText?
  let alias? ← r.optionalOr "alias" asText?
  let aggregate? ← r.optionalOr "aggregate" asWord?
  let sortOrder ← r.fieldOr "sort_order" asInt32? 0
  let format? ← r.optionalOr "format" asText?
  let isHidden ← r.fieldOr "is_hidden" asBool? false
  let dataType? ← r.optionalOr "data_type" asText?
  pure ⟨name, alias?, aggregate?, sortOrder, format?, isHidden, dataType?⟩

def shape : Shape := .record "FieldConfig"
  [.required "name" .text, .withDefault "alias" (.optional .text),
   .withDefault "aggregate" (.optional (.wordOf Aggregate)), .withDefault "sort_order" .int32,
   .withDefault "format" (.optional .text), .withDefault "is_hidden" .bool,
   .withDefault "data_type" (.optional .text)]

def toJson (f : Selection) : Json := .object <|
  [("name", .text f.name)] ++ present "alias" .text f.alias? ++
  present "aggregate" ofWord f.aggregate? ++ [("sort_order", .int f.sortOrder.toInt)] ++
  present "format" .text f.format? ++ [("is_hidden", .bool f.isHidden)] ++
  present "data_type" .text f.dataType?

end Selection

namespace Condition

def ofJson? (j : Json) : Option Condition := do
  let r ← j.record? ["field", "operator", "value", "logic"]
  let field ← r.field "field" asText?
  let operator ← r.field "operator" (asName? fun s => some (Operator.ofName s))
  let operand ← r.fieldOr "value" Cell.ofJson? .null
  let connective? ← r.optionalOr "logic" asWord?
  pure ⟨field, operator, operand, connective?⟩

def shape : Shape := .record "FilterConfig"
  [.required "field" .text, .required "operator" (.word none), .withDefault "value" .cell,
   .withDefault "logic" (.optional (.wordOf Connective))]

def toJson (c : Condition) : Json := .object <|
  [("field", .text c.field), ("operator", ofWord c.operator), ("value", c.operand.toJson)] ++
  present "logic" ofWord c.connective?

end Condition

namespace Grouping

def ofJson? (j : Json) : Option Grouping := do
  let r ← j.record? ["field", "time_grain"]
  let field ← r.field "field" asText?
  let grain ← r.fieldOr "time_grain" asWord? .none
  pure ⟨field, grain⟩

def shape : Shape := .record "GroupConfig"
  [.required "field" .text, .withDefault "time_grain" (.wordOf Grain)]

def toJson (g : Grouping) : Json := .object [("field", .text g.field), ("time_grain", ofWord g.grain)]

end Grouping

namespace SortKey

def ofJson? (j : Json) : Option SortKey := do
  let r ← j.record? ["field", "direction"]
  let field ← r.field "field" asText?
  let direction ← r.fieldOr "direction" asText? ""
  pure ⟨field, direction⟩

def shape : Shape := .record "SortConfig"
  [.required "field" .text, .withDefault "direction" .text]

def toJson (s : SortKey) : Json :=
  .object [("field", .text s.field), ("direction", .text s.direction)]

end SortKey

namespace Calculation

def ofJson? (j : Json) : Option Calculation := do
  let r ← j.record? ["name", "expression", "data_type"]
  let name ← r.field "name" asText?
  let expression ← r.field "expression" asText?
  let dataType? ← r.optionalOr "data_type" asText?
  pure ⟨name, expression, dataType?⟩

def shape : Shape := .record "CalculationConfig"
  [.required "name" .text, .required "expression" .text,
   .withDefault "data_type" (.optional .text)]

def toJson (c : Calculation) : Json := .object <|
  [("name", .text c.name), ("expression", .text c.expression)] ++ present "data_type" .text c.dataType?

end Calculation

namespace ReportQuery

def ofJson? (j : Json) : Option ReportQuery := do
  let r ← j.record? ["dataset", "fields", "filters", "groupings", "sorts", "calculations", "limit"]
  let dataset ← r.field "dataset" asText?
  let fields ← r.fieldOr "fields" (asList? Selection.ofJson?) []
  let conditions ← r.fieldOr "filters" (asList? Condition.ofJson?) []
  let groupings ← r.fieldOr "groupings" (asList? Grouping.ofJson?) []
  let sorts ← r.fieldOr "sorts" (asList? SortKey.ofJson?) []
  let calculations ← r.fieldOr "calculations" (asList? Calculation.ofJson?) []
  let limit ← r.fieldOr "limit" asInt64? 0
  pure ⟨dataset, fields, conditions, groupings, sorts, calculations, limit⟩

def shape : Shape := .record "ReportConfig"
  [.required "dataset" .text, .withDefault "fields" (.list Selection.shape),
   .withDefault "filters" (.list Condition.shape), .withDefault "groupings" (.list Grouping.shape),
   .withDefault "sorts" (.list SortKey.shape), .withDefault "calculations" (.list Calculation.shape),
   .withDefault "limit" .int64]

def toJson (q : ReportQuery) : Json := .object
  [("dataset", .text q.dataset), ("fields", .list (q.fields.map Selection.toJson)),
   ("filters", .list (q.conditions.map Condition.toJson)),
   ("groupings", .list (q.groupings.map Grouping.toJson)),
   ("sorts", .list (q.sorts.map SortKey.toJson)),
   ("calculations", .list (q.calculations.map Calculation.toJson)), ("limit", .int q.limit.toInt)]

end ReportQuery

end Reading

end PortfolioReports
