import PortfolioReports.Reporting.Call
import PortfolioReports.Store.Reports

namespace PortfolioReports

open Calendar

def NewReport.report (r : NewReport) (id : Uuid) (now : Moment) : Report where
  id := id
  name := r.name
  description? := r.description?
  category := r.category
  query := r.query
  createdBy? := r.createdBy?
  visibility := r.visibility
  version := 1
  isTemplate := r.isTemplate
  basedOn? := none
  createdAt := now
  updatedAt := now
  deletedAt? := none

namespace Report

def copy (r : Report) (id : Uuid) (name : String) (owner? : Option Uuid) (now : Moment) : Report where
  id := id
  name := name
  description? := r.description?
  category := r.category
  query := r.query
  createdBy? := owner?
  visibility := .ownerOnly
  version := 1
  isTemplate := false
  basedOn? := some r.id
  createdAt := now
  updatedAt := now
  deletedAt? := none

/-- The version after `Int64.maxValue` wraps around here; where sums are checked, the update stops there. -/
def revise (r : Report) (u : ReportUpdate) (now : Moment) : Report :=
  { u.apply r with version := r.version + 1, updatedAt := now }

end Report

namespace Reporting

open Call

def createReport (id : Uuid) (now : Moment) (request : NewReport) : Call Report := do
  requireText request.name .reportNameRequired
  check request.query.validate
  let report := request.report id now
  insert fun s => s.insertReport report
  pure report

def getReport (id : Uuid) : Call Report := do
  found (.report id) (← read .reports fun s => s.getReport id)

def checkUpdate (u : ReportUpdate) : Call Unit := do
  match u.query? with
  | some q => check q.validate
  | none => pure ()
  match u.name? with
  | some name => requireText name .reportNameRequired
  | none => pure ()

/-- The report may be deleted between the reading and the writing; then nothing is written. -/
def updateReport (id : Uuid) (now : Moment) (u : ReportUpdate) : Call Report := do
  let report ← getReport id
  checkUpdate u
  let revised := report.revise u now
  changed (.report id) (← change fun s => s.updateReport revised)
  pure revised

def deleteReport (id : Uuid) (now : Moment) : Call Unit := do
  changed (.report id) (← change fun s => s.deleteReport id now)

def listReports (f : ReportFilter) : Call (Page Report) := do
  let (items, total) ← read .reports fun s => s.listReports f
  pure (.of items total f.pageNumber f.size)

def listTemplates : Call (List Report) := read .reports Store.listTemplates

def cloneReport (source id : Uuid) (name : String) (owner? : Option Uuid) (now : Moment) : Call Report := do
  let report ← getReport source
  let copy := report.copy id name owner? now
  insert fun s => s.insertReport copy
  pure copy

end Reporting

end PortfolioReports
