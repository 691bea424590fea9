import PortfolioReports.Json.Fault

namespace PortfolioReports.Json

structure Member (α : Type) where
  name : String
  others : List String
  isRequired : Bool
  shape : α

inductive Shape where
  | ignored
  | document
  | cell
  | text
  | bool
  | float
  | integer (name : String) (lo hi : Int)
  | word (known : Option (List String))
  | optional (shape : Shape)
  | list (shape : Shape)
  | record (title : String) (fields : List (Member Shape))

namespace Member

def required (name : String) (shape : Shape) : Member Shape := ⟨name, [], true, shape⟩

def withDefault (name : String) (shape : Shape) : Member Shape := ⟨name, [], false, shape⟩

def isCalled {α : Type} (f : Member α) (name : String) : Bool := f.name == name || f.others.contains name

end Member

namespace Shape

def int32 : Shape := integer "i32" Int32.minValue.toInt Int32.maxValue.toInt

def int64 : Shape := integer "i64" Int64.minValue.toInt Int64.maxValue.toInt

def nat32 : Shape := integer "u32" 0 (UInt32.size - 1)

def expected : Shape → String
  | ignored | document => "any value"
  | cell => "null, a boolean, a number, a string or an array"
  | text => "a string"
  | bool => "a boolean"
  | float => "f64"
  | integer name _ _ => name
  | word _ => "variant identifier"
  | optional s => s.expected
  | list _ => "a sequence"
  | record title _ => "struct " ++ title

def scalarFault? (shape : Shape) (j : Json) : Option ReadFault :=
  match shape, j with
  | ignored, _ | document, _ | cell, _ => none
  | text, .text _ | bool, .bool _ | float, .float _ | float, .int _ => none
  | integer name lo hi, .int n => if lo ≤ n ∧ n ≤ hi then none else some (.wrongValue n name)
  | s, j => some (.wrongType (.of j) s.expected)

end Shape

end PortfolioReports.Json
