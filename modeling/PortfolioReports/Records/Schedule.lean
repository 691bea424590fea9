import PortfolioReports.Fault
import PortfolioReports.Records.Report
import PortfolioReports.Text.Blank

namespace PortfolioReports

open Calendar Json

def isCronChar (c : Char) : Bool :=
  c.isAlphanum || c = '*' || c = '/' || c = ',' || c = '-' || c = '?'

def validateCron (expression : String) : Except Fault Unit :=
  let fields := Text.words expression.toList
  if fields.length ≠ 5 then
    .error (.invalidConfig (.cronFieldCount fields.length expression))
  else
    match fields.find? fun f => !f.all isCronChar with
    | some f => .error (.invalidConfig (.cronField (String.ofList f) expression))
    | none => .ok ()

structure Schedule where
  id : Uuid
  report : Uuid
  name : String
  cron : String
  timezone : String
  isActive : Bool
  format : ExportFormat
  delivery : DeliveryMethod
  recipients : List String
  webhook? : Option String
  createdBy? : Option Uuid
  createdAt : Moment
  updatedAt : Moment

namespace Schedule

def ofJson? (j : Json) : Option Schedule := do
  let r ← j.record?
    ["id", "report_definition_id", "name", "cron_expression", "timezone", "is_active", "format",
     "delivery_method", "recipient_emails", "webhook_url", "created_by", "created_at", "updated_at"]
  let id ← r.field "id" asUuid?
  let report ← r.field "report_definition_id" asUuid?
  let name ← r.field "name" asText?
  let cron ← r.field "cron_expression" asText?
  let timezone ← r.field "timezone" asText?
  let isActive ← r.field "is_active" asBool?
  let format ← r.field "format" asWord?
  let delivery ← r.field "delivery_method" asWord?
  let recipients ← r.field "recipient_emails" (asList? asText?)
  let webhook? ← r.optional "webhook_url" asText?
  let createdBy? ← r.optional "created_by" asUuid?
  let createdAt ← r.field "created_at" asMoment?
  let updatedAt ← r.field "updated_at" asMoment?
  pure ⟨id, report, name, cron, timezone, isActive, format, delivery, recipients, webhook?, createdBy?,
    createdAt, updatedAt⟩

def toJson (s : Schedule) : Json := .object
  [("id", ofUuid s.id), ("report_definition_id", ofUuid s.report), ("name", .text s.name),
   ("cron_expression", .text s.cron), ("timezone", .text s.timezone), ("is_active", .bool s.isActive),
   ("format", ofWord s.format), ("delivery_method", ofWord s.delivery),
   ("recipient_emails", texts s.recipients), ("webhook_url", ofOption .text s.webhook?),
   ("created_by", ofOption ofUuid s.createdBy?), ("created_at", ofMoment s.createdAt),
   ("updated_at", ofMoment s.updatedAt)]

end Schedule

structure NewSchedule where
  report : Uuid
  name : String
  cron : String
  timezone? : Option String
  format : ExportFormat
  delivery : DeliveryMethod
  recipients : List String
  webhook? : Option String
  createdBy? : Option Uuid

namespace NewSchedule

def ofJson? (j : Json) : Option NewSchedule := do
  let r ← j.record?
    ["report_definition_id", "name", "cron_expression", "timezone", "format", "delivery_method",
     "recipient_emails", "webhook_url", "created_by"]
  let report ← r.field "report_definition_id" asUuid?
  let name ← r.field "name" asText?
  let cron ← r.field "cron_expression" asText?
  let timezone? ← r.optionalOr "timezone" asText?
  let format ← r.fieldOr "format" asWord? .csv
  let delivery ← r.fieldOr "delivery_method" asWord? .email
  let recipients ← r.fieldOr "recipient_emails" (asList? asText?) []
  let webhook? ← r.optionalOr "webhook_url" asText?
  let createdBy? ← r.optionalOr "created_by" asUuid?
  pure ⟨report, name, cron, timezone?, format, delivery, recipients, webhook?, createdBy?⟩

def toJson (s : NewSchedule) : Json := .object
  [("report_definition_id", ofUuid s.report), ("name", .text s.name), ("cron_expression", .text s.cron),
   ("timezone", ofOption .text s.timezone?), ("format", ofWord s.format),
   ("delivery_method", ofWord s.delivery), ("recipient_emails", texts s.recipients),
   ("webhook_url", ofOption .text s.webhook?), ("created_by", ofOption ofUuid s.createdBy?)]

end NewSchedule

end PortfolioReports
