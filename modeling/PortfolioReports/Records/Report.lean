import PortfolioReports.Query.Basic
import PortfolioReports.Records.Terms

namespace PortfolioReports

open Calendar Json

structure Report where
  id : Uuid
  name : String
  description? : Option String
  category : Category
  query : ReportQuery
  createdBy? : Option Uuid
  visibility : Visibility
  version : Int64
  isTemplate : Bool
  basedOn? : Option Uuid
  createdAt : Moment
  updatedAt : Moment
  deletedAt? : Option Moment

namespace Report

def fieldNames : List String :=
  ["id", "name", "description", "category", "config", "created_by", "visibility", "version",
   "is_template", "based_on_template_id", "created_at", "updated_at", "deleted_at"]

def ofJson? (j : Json) : Option Report := do
  let r ← j.record? fieldNames
  let id ← r.field "id" asUuid?
  let name ← r.field "name" asText?
  let description? ← r.optional "description" asText?
  let category ← r.field "category" asWord?
  let query ← r.field "config" ReportQuery.ofJson?
  let createdBy? ← r.optional "created_by" asUuid?
  let visibility ← r.field "visibility" asWord?
  let version ← r.field "version" asInt64?
  let isTemplate ← r.field "is_template" asBool?
  let basedOn? ← r.optional "based_on_template_id" asUuid?
  let createdAt ← r.field "created_at" asMoment?
  let updatedAt ← r.field "updated_at" asMoment?
  let deletedAt? ← r.optionalOr "deleted_at" asMoment?
  pure ⟨id, name, description?, category, query, createdBy?, visibility, version, isTemplate, basedOn?,
    createdAt, updatedAt, deletedAt?⟩

def toJson (r : Report) : Json := .object <|
  [("id", ofUuid r.id), ("name", .text r.name), ("description", ofOption .text r.description?),
   ("category", ofWord r.category), ("config", r.query.toJson),
   ("created_by", ofOption ofUuid r.createdBy?), ("visibility", ofWord r.visibility),
   ("version", .int r.version.toInt), ("is_template", .bool r.isTemplate),
   ("based_on_template_id", ofOption ofUuid r.basedOn?), ("created_at", ofMoment r.createdAt),
   ("updated_at", ofMoment r.updatedAt)] ++ present "deleted_at" ofMoment r.deletedAt?

end Report

structure NewReport where
  name : String
  description? : Option String
  category : Category
  query : ReportQuery
  createdBy? : Option Uuid
  visibility : Visibility
  isTemplate : Bool

namespace NewReport

def ofJson? (j : Json) : Option NewReport := do
  let r ← j.record?
    ["name", "description", "category", "config", "created_by", "visibility", "is_template"]
  let name ← r.fieldOr "name" asText? ""
  let description? ← r.optionalOr "description" asText?
  let category ← r.fieldOr "category" asWord? .custom
  let query ← r.fieldOr "config" ReportQuery.ofJson? .empty
  let createdBy? ← r.optionalOr "created_by" asUuid?
  let visibility ← r.fieldOr "visibility" asWord? .ownerOnly
  let isTemplate ← r.fieldOr "is_template" asBool? false
  pure ⟨name, description?, category, query, createdBy?, visibility, isTemplate⟩

def toJson (r : NewReport) : Json := .object
  [("name", .text r.name), ("description", ofOption .text r.description?),
   ("category", ofWord r.category), ("config", r.query.toJson),
   ("created_by", ofOption ofUuid r.createdBy?), ("visibility", ofWord r.visibility),
   ("is_template", .bool r.isTemplate)]

end NewReport

/-- A change of a report; what is absent stays as it is. -/
structure ReportUpdate where
  name? : Option String
  description? : Option String
  category? : Option Category
  query? : Option ReportQuery
  visibility? : Option Visibility
  isTemplate? : Option Bool

namespace ReportUpdate

def ofJson? (j : Json) : Option ReportUpdate := do
  let r ← j.record? ["name", "description", "category", "config", "visibility", "is_template"]
  let name? ← r.optionalOr "name" asText?
  let description? ← r.optionalOr "description" asText?
  let category? ← r.optionalOr "category" asWord?
  let query? ← r.optionalOr "config" ReportQuery.ofJson?
  let visibility? ← r.optionalOr "visibility" asWord?
  let isTemplate? ← r.optionalOr "is_template" asBool?
  pure ⟨name?, description?, category?, query?, visibility?, isTemplate?⟩

def toJson (u : ReportUpdate) : Json := .object
  [("name", ofOption .text u.name?), ("description", ofOption .text u.description?),
   ("category", ofOption ofWord u.category?), ("config", ofOption ReportQuery.toJson u.query?),
   ("visibility", ofOption ofWord u.visibility?), ("is_template", ofOption .bool u.isTemplate?)]

def apply (u : ReportUpdate) (r : Report) : Report :=
  { r with
    name := u.name?.getD r.name
    description? := u.description?.orElse fun _ => r.description?
    category := u.category?.getD r.category
    query := u.query?.getD r.query
    visibility := u.visibility?.getD r.visibility
    isTemplate := u.isTemplate?.getD r.isTemplate }

end ReportUpdate

end PortfolioReports
