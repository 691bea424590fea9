import PortfolioReports.Records.Schedule
import PortfolioReports.Reporting.Reports
import PortfolioReports.Store.Schedules

namespace PortfolioReports

open Calendar

namespace NewSchedule

def hasTarget (r : NewSchedule) : Bool := r.delivery ≠ .webhook || r.webhook?.any fun u => !u.isEmpty

def schedule (r : NewSchedule) (id : Uuid) (now : Moment) : Schedule where
  id := id
  report := r.report
  name := r.name
  cron := Text.trim r.cron
  timezone := (r.timezone?.filter fun t => !t.isEmpty).getD "UTC"
  isActive := true
  format := r.format
  delivery := r.delivery
  recipients := r.recipients
  webhook? := r.webhook?
  createdBy? := r.createdBy?
  createdAt := now
  updatedAt := now

end NewSchedule

namespace Reporting

open Call

def createSchedule (id : Uuid) (now : Moment) (request : NewSchedule) : Call Schedule := do
  let _ ← getReport request.report
  check (validateCron request.cron)
  requireText request.name .scheduleNameRequired
  unless request.hasTarget do fail (.invalidConfig .webhookUrlRequired)
  let schedule := request.schedule id now
  insert fun s => s.insertSchedule schedule
  pure schedule

def listSchedules (report? : Option Uuid) : Call (List Schedule) := read .schedules fun s => s.listSchedules report?

def setScheduleActive (id : Uuid) (isActive : Bool) (now : Moment) : Call Unit := do
  changed (.schedule id) (← change fun s => s.setScheduleActive id isActive now)

def deleteSchedule (id : Uuid) : Call Unit := do
  changed (.schedule id) (← change fun s => s.deleteSchedule id)

end Reporting

end PortfolioReports
