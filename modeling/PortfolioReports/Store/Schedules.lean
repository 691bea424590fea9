import PortfolioReports.Store.Basic

namespace PortfolioReports

open Calendar

def ScheduleRow.listedBefore (a b : ScheduleRow) : Bool :=
  a.createdAt < b.createdAt || (a.createdAt == b.createdAt && !(b.id < a.id))

namespace Store

def hasSchedule (s : Store) (id : Uuid) : Bool := s.schedules.any fun r => r.id == id.toText

def insertSchedule (s : Store) (x : Schedule) : Except StoreFault Store :=
  if s.hasSchedule x.id then .error (.duplicateId "report_schedules")
  else if s.hasReport x.report.toText then .ok { s with schedules := s.schedules ++ [.ofSchedule x] }
  else .error .missingParent

def getSchedule (s : Store) (id : Uuid) : Except StoreFault (Option Schedule) :=
  readFirst (fun r => r.id == id.toText) ScheduleRow.toSchedule s.schedules

def listSchedules (s : Store) (report? : Option Uuid) : Except StoreFault (List Schedule) :=
  ((s.schedules.filter fun r => report?.all fun u => r.report == u.toText).mergeSort
    ScheduleRow.listedBefore).mapM ScheduleRow.toSchedule

def setScheduleActive (s : Store) (id : Uuid) (isActive : Bool) (time : Moment) : Store × Bool :=
  let set (r : ScheduleRow) : ScheduleRow := { r with isActive, updatedAt := utcText time }
  ({ s with schedules := change (fun r => r.id == id.toText) set s.schedules }, s.hasSchedule id)

def deleteSchedule (s : Store) (id : Uuid) : Store × Bool :=
  ({ s with schedules := s.schedules.filter fun r => r.id != id.toText }, s.hasSchedule id)

end Store

end PortfolioReports
