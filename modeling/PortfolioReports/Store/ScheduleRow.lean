import PortfolioReports.Records.Schedule
import PortfolioReports.Store.Column

namespace PortfolioReports

structure ScheduleRow where
  id : String
  report : String
  name : String
  cron : String
  timezone : String
  isActive : Bool
  format : String
  delivery : String
  recipients : String
  webhook? : Option String
  createdBy? : Option String
  createdAt : String
  updatedAt : String
deriving DecidableEq

namespace ScheduleRow

open Stored Calendar

def ofSchedule (s : Schedule) : ScheduleRow where
  id := s.id.toText
  report := s.report.toText
  name := s.name
  cron := s.cron
  timezone := s.timezone
  isActive := s.isActive
  format := Vocabulary.name s.format
  delivery := Vocabulary.name s.delivery
  recipients := (Json.texts s.recipients).print
  webhook? := s.webhook?
  createdBy? := s.createdBy?.map Uuid.toText
  createdAt := utcText s.createdAt
  updatedAt := utcText s.updatedAt

def toSchedule (s : ScheduleRow) : Except StoreFault Schedule := do
  let id ← readUuid 0 s.id
  let report ← readUuid 1 s.report
  let format ← readWord 6 s.format
  let delivery ← readWord 7 s.delivery
  let recipients ← readJson (.list .text) (Json.asList? Json.asText?) 8 s.recipients
  let createdBy? ← readOptional readUuid 10 s.createdBy?
  let createdAt ← readTime 11 s.createdAt
  let updatedAt ← readTime 12 s.updatedAt
  pure ⟨id, report, s.name, s.cron, s.timezone, s.isActive, format, delivery, recipients, s.webhook?,
    createdBy?, createdAt, updatedAt⟩

def overwrite? (column value : String) (s : ScheduleRow) : Option ScheduleRow :=
  match column with
  | "id" => some { s with id := value }
  | "report_definition_id" => some { s with report := value }
  | "name" => some { s with name := value }
  | "cron_expression" => some { s with cron := value }
  | "timezone" => some { s with timezone := value }
  | "format" => some { s with format := value }
  | "delivery_method" => some { s with delivery := value }
  | "recipient_emails" => some { s with recipients := value }
  | "webhook_url" => some { s with webhook? := some value }
  | "created_by" => some { s with createdBy? := some value }
  | "created_at" => some { s with createdAt := value }
  | "updated_at" => some { s with updatedAt := value }
  | _ => none

end ScheduleRow

end PortfolioReports
