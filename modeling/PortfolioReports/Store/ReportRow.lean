import PortfolioReports.Records.Report
import PortfolioReports.Store.Column

namespace PortfolioReports

structure ReportRow where
  id : String
  name : String
  description? : Option String
  category : String
  query : String
  createdBy? : Option String
  visibility : String
  version : Int64
  isTemplate : Bool
  basedOn? : Option String
  createdAt : String
  updatedAt : String
  deletedAt? : Option String
deriving DecidableEq

namespace ReportRow

open Stored Calendar

def ofReport (r : Report) : ReportRow where
  id := r.id.toText
  name := r.name
  description? := r.description?
  category := Vocabulary.name r.category
  query := r.query.toJson.print
  createdBy? := r.createdBy?.map Uuid.toText
  visibility := Vocabulary.name r.visibility
  version := r.version
  isTemplate := r.isTemplate
  basedOn? := r.basedOn?.map Uuid.toText
  createdAt := utcText r.createdAt
  updatedAt := utcText r.updatedAt
  deletedAt? := r.deletedAt?.map utcText

def toReport (r : ReportRow) : Except StoreFault Report := do
  let id ← readUuid 0 r.id
  let category ← readWord 3 r.category
  let query ← readJson ReportQuery.shape ReportQuery.ofJson? 4 r.query
  let createdBy? ← readOptional readUuid 5 r.createdBy?
  let visibility ← readWord 6 r.visibility
  let basedOn? ← readOptional readUuid 9 r.basedOn?
  let createdAt ← readTime 10 r.createdAt
  let updatedAt ← readTime 11 r.updatedAt
  let deletedAt? ← readOptional readTime 12 r.deletedAt?
  pure ⟨id, r.name, r.description?, category, query, createdBy?, visibility, r.version, r.isTemplate,
    basedOn?, createdAt, updatedAt, deletedAt?⟩

def isLive (r : ReportRow) : Bool := r.deletedAt?.isNone

def overwrite? (column value : String) (r : ReportRow) : Option ReportRow :=
  match column with
  | "id" => some { r with id := value }
  | "name" => some { r with name := value }
  | "description" => some { r with description? := some value }
  | "category" => some { r with category := value }
  | "config" => some { r with query := value }
  | "created_by" => some { r with createdBy? := some value }
  | "visibility" => some { r with visibility := value }
  | "based_on_template_id" => some { r with basedOn? := some value }
  | "created_at" => some { r with createdAt := value }
  | "updated_at" => some { r with updatedAt := value }
  | "deleted_at" => some { r with deletedAt? := some value }
  | _ => none

end ReportRow

end PortfolioReports
