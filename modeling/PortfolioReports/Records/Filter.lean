import PortfolioReports.Records.Report
import PortfolioReports.Records.Status

namespace PortfolioReports

open Json

def defaultPageSize : UInt32 := 20

structure ReportFilter where
  user? : Option Uuid
  category? : Option Category
  visibility? : Option Visibility
  isTemplate? : Option Bool
  search? : Option String
  /-- Counted from 1; 0 is read as 1. -/
  page : UInt32
  pageSize : UInt32

namespace ReportFilter

def all : ReportFilter := ⟨none, none, none, none, none, 0, 0⟩

def ofJson? (j : Json) : Option ReportFilter := do
  let r ← j.record?
    ["user_id", "category", "visibility", "is_template", "search", "page", "page_size"]
  let user? ← r.optionalOr "user_id" asUuid?
  let category? ← r.optionalOr "category" asWord?
  let visibility? ← r.optionalOr "visibility" asWord?
  let isTemplate? ← r.optionalOr "is_template" asBool?
  let search? ← r.optionalOr "search" asText?
  let page ← r.fieldOr "page" (asNat? 32) 0
  let pageSize ← r.fieldOr "page_size" (asNat? 32) 0
  pure ⟨user?, category?, visibility?, isTemplate?, search?, page.toUInt32, pageSize.toUInt32⟩

def toJson (f : ReportFilter) : Json := .object
  [("user_id", ofOption ofUuid f.user?), ("category", ofOption ofWord f.category?),
   ("visibility", ofOption ofWord f.visibility?), ("is_template", ofOption .bool f.isTemplate?),
   ("search", ofOption .text f.search?), ("page", ofNat f.page.toNat),
   ("page_size", ofNat f.pageSize.toNat)]

def pageNumber (f : ReportFilter) : UInt32 := if f.page = 0 then 1 else f.page

def size (f : ReportFilter) : UInt32 := if f.pageSize = 0 then defaultPageSize else f.pageSize

end ReportFilter

structure ExecutionFilter where
  report? : Option Uuid
  status? : Option ExecutionStatus
  limit : UInt32

namespace ExecutionFilter

def all : ExecutionFilter := ⟨none, none, 0⟩

def ofJson? (j : Json) : Option ExecutionFilter := do
  let r ← j.record? ["report_definition_id", "status", "limit"]
  let report? ← r.optionalOr "report_definition_id" asUuid?
  let status? ← r.optionalOr "status" asWord?
  let limit ← r.fieldOr "limit" (asNat? 32) 0
  pure ⟨report?, status?, limit.toUInt32⟩

def toJson (f : ExecutionFilter) : Json := .object
  [("report_definition_id", ofOption ofUuid f.report?), ("status", ofOption ofWord f.status?),
   ("limit", ofNat f.limit.toNat)]

end ExecutionFilter

structure BenchmarkFilter where
  category? : Option String
  methodology? : Option String
  region? : Option String
  year? : Option Int32
  isActive? : Option Bool

namespace BenchmarkFilter

def all : BenchmarkFilter := ⟨none, none, none, none, none⟩

def ofJson? (j : Json) : Option BenchmarkFilter := do
  let r ← j.record? ["category", "methodology", "region", "year", "is_active"]
  let category? ← r.optionalOr "category" asText?
  let methodology? ← r.optionalOr "methodology" asText?
  let region? ← r.optionalOr "region" asText?
  let year? ← r.optionalOr "year" asInt32?
  let isActive? ← r.optionalOr "is_active" asBool?
  pure ⟨category?, methodology?, region?, year?, isActive?⟩

def toJson (f : BenchmarkFilter) : Json := .object
  [("category", ofOption .text f.category?), ("methodology", ofOption .text f.methodology?),
   ("region", ofOption .text f.region?), ("year", ofOption (fun y => .int y.toInt) f.year?),
   ("is_active", ofOption .bool f.isActive?)]

end BenchmarkFilter

structure Page (α : Type) where
  items : List α
  total : Nat
  page : UInt32
  pageSize : UInt32
  totalPages : UInt32

namespace Page

/-- The number of pages is that of the last one that has items, as far as 32 bits tell it. -/
def of {α : Type} (items : List α) (total : Nat) (page pageSize : UInt32) : Page α :=
  let size := max pageSize.toNat 1
  ⟨items, total, page, pageSize, (Nat.toUInt32 ((total + size - 1) / size))⟩

def toJson {α : Type} (write : α → Json) (p : Page α) : Json := .object
  [("items", .list (p.items.map write)), ("total", ofNat p.total), ("page", ofNat p.page.toNat),
   ("page_size", ofNat p.pageSize.toNat), ("total_pages", ofNat p.totalPages.toNat)]

end Page

end PortfolioReports
