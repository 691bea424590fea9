import PortfolioReports.Records.Report

namespace PortfolioReports

open Calendar Json

structure Widget where
  id : Uuid
  owner? : Option Uuid
  area : String
  kind : WidgetKind
  title : String
  config : Json
  size : WidgetSize
  position : Int64
  refreshSeconds : Int64
  isVisible : Bool
  createdAt : Moment
  updatedAt : Moment

namespace Widget

def ofJson? (now : Moment) (j : Json) : Option Widget := do
  let r ← j.record?
    ["id", "user_id", "dashboard_section", "widget_type", "title", "config", "size", "position",
     "refresh_interval_seconds", "is_visible", "created_at", "updated_at"]
  let id ← r.fieldOr "id" asUuid? .nil
  let owner? ← r.optionalOr "user_id" asUuid?
  let area ← r.field "dashboard_section" asText?
  let kind ← r.field "widget_type" asWord?
  let title ← r.field "title" asText?
  let config ← r.fieldOr "config" document? .null
  let size ← r.fieldOr "size" asWord? .medium
  let position ← r.fieldOr "position" asInt64? 0
  let refreshSeconds ← r.fieldOr "refresh_interval_seconds" asInt64? 300
  let isVisible ← r.fieldOr "is_visible" asBool? true
  let createdAt ← r.fieldOr "created_at" asMoment? now
  let updatedAt ← r.fieldOr "updated_at" asMoment? now
  pure ⟨id, owner?, area, kind, title, config, size, position, refreshSeconds, isVisible,
    createdAt, updatedAt⟩

def toJson (w : Widget) : Json := .object
  [("id", ofUuid w.id), ("user_id", ofOption ofUuid w.owner?), ("dashboard_section", .text w.area),
   ("widget_type", ofWord w.kind), ("title", .text w.title), ("config", w.config),
   ("size", ofWord w.size), ("position", .int w.position.toInt),
   ("refresh_interval_seconds", .int w.refreshSeconds.toInt), ("is_visible", .bool w.isVisible),
   ("created_at", ofMoment w.createdAt), ("updated_at", ofMoment w.updatedAt)]

end Widget

end PortfolioReports
