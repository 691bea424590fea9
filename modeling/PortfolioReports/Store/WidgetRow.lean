import PortfolioReports.Records.Widget
import PortfolioReports.Store.Column

namespace PortfolioReports

structure WidgetRow where
  id : String
  owner? : Option String
  area : String
  kind : String
  title : String
  config : String
  size : String
  position : Int64
  refreshSeconds : Int64
  isVisible : Bool
  createdAt : String
  updatedAt : String
deriving DecidableEq

namespace WidgetRow

open Stored Calendar

def ofWidget (w : Widget) : WidgetRow where
  id := w.id.toText
  owner? := w.owner?.map Uuid.toText
  area := w.area
  kind := Vocabulary.name w.kind
  title := w.title
  config := w.config.print
  size := Vocabulary.name w.size
  position := w.position
  refreshSeconds := w.refreshSeconds
  isVisible := w.isVisible
  createdAt := utcText w.createdAt
  updatedAt := utcText w.updatedAt

def toWidget (w : WidgetRow) : Except StoreFault Widget := do
  let id ← readUuid 0 w.id
  let owner? ← readOptional readUuid 1 w.owner?
  let kind ← readWord 3 w.kind
  let config ← readJson .document Json.document? 5 w.config
  let size ← readWord 6 w.size
  let createdAt ← readTime 10 w.createdAt
  let updatedAt ← readTime 11 w.updatedAt
  pure ⟨id, owner?, w.area, kind, w.title, config, size, w.position, w.refreshSeconds, w.isVisible,
    createdAt, updatedAt⟩

def overwrite? (column value : String) (w : WidgetRow) : Option WidgetRow :=
  match column with
  | "id" => some { w with id := value }
  | "user_id" => some { w with owner? := some value }
  | "dashboard_section" => some { w with area := value }
  | "widget_type" => some { w with kind := value }
  | "title" => some { w with title := value }
  | "config" => some { w with config := value }
  | "size" => some { w with size := value }
  | "created_at" => some { w with createdAt := value }
  | "updated_at" => some { w with updatedAt := value }
  | _ => none

end WidgetRow

end PortfolioReports
