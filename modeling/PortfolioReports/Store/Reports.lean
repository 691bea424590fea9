import PortfolioReports.Records.Filter
import PortfolioReports.Store.Basic
import PortfolioReports.Text.Wildcard

namespace PortfolioReports

open Calendar

namespace ReportRow

def passesBare (f : ReportFilter) (r : ReportRow) : Bool :=
  r.isLive &&
  f.user?.all (fun u => r.createdBy? == some u.toText || r.visibility == Vocabulary.name Visibility.everyone) &&
  f.category?.all (fun c => r.category == Vocabulary.name c) &&
  f.visibility?.all (fun v => r.visibility == Vocabulary.name v) &&
  f.isTemplate?.all (fun t => r.isTemplate == t)

def passes (f : ReportFilter) (r : ReportRow) : Bool :=
  r.passesBare f &&
  f.search?.all (fun s => s.isEmpty || Text.found s r.name || r.description?.any (Text.found s))

def listedBefore (a b : ReportRow) : Bool :=
  b.updatedAt < a.updatedAt || (a.updatedAt == b.updatedAt && !(b.id < a.id))

def nameBefore (a b : ReportRow) : Bool := !(b.name < a.name)

def isLiveWith (id : Uuid) (r : ReportRow) : Bool := r.isLive && r.id == id.toText

def isPublicTemplate (r : ReportRow) : Bool :=
  r.isLive && r.isTemplate && r.visibility == Vocabulary.name Visibility.everyone

def updateFrom (new old : ReportRow) : ReportRow :=
  { new with
    id := old.id
    createdBy? := old.createdBy?
    basedOn? := old.basedOn?
    createdAt := old.createdAt
    deletedAt? := old.deletedAt? }

end ReportRow

namespace Store

def insertReport (s : Store) (r : Report) : Except StoreFault Store :=
  if s.hasReport r.id.toText then .error (.duplicateId "report_definitions")
  else .ok { s with reports := s.reports ++ [.ofReport r] }

def getReport (s : Store) (id : Uuid) : Except StoreFault (Option Report) :=
  readFirst (ReportRow.isLiveWith id) ReportRow.toReport s.reports

def updateReport (s : Store) (r : Report) : Store × Bool :=
  ({ s with reports := change (ReportRow.isLiveWith r.id) (ReportRow.ofReport r).updateFrom s.reports },
    s.reports.any (ReportRow.isLiveWith r.id))

def deleteReport (s : Store) (id : Uuid) (time : Moment) : Store × Bool :=
  let delete (r : ReportRow) : ReportRow := { r with deletedAt? := some (utcText time) }
  ({ s with reports := change (ReportRow.isLiveWith id) delete s.reports },
    s.reports.any (ReportRow.isLiveWith id))

def matchingReports (s : Store) (f : ReportFilter) : List ReportRow :=
  (s.reports.filter (ReportRow.passes f)).mergeSort ReportRow.listedBefore

/-- How many reports stand on the pages before. Where 32 bits do not tell the product, the connection is lost. -/
def pageOffset (f : ReportFilter) : Except StoreFault Nat :=
  let skipped := (f.pageNumber.toNat - 1) * f.size.toNat
  if skipped < UInt32.size then .ok skipped else .error .connectionClosed

/-- The reports of a page, and how many there are on all pages. A pattern that is too long is refused
where a row is compared with it. -/
def listReports (s : Store) (f : ReportFilter) : Except StoreFault (List Report × Nat) := do
  if f.search?.any Text.isTooLong && s.reports.any (ReportRow.passesBare f) then throw .patternTooLong
  let rows := s.matchingReports f
  let start ← pageOffset f
  let items ← ((rows.drop start).take f.size.toNat).mapM ReportRow.toReport
  pure (items, rows.length)

def listTemplates (s : Store) : Except StoreFault (List Report) :=
  ((s.reports.filter ReportRow.isPublicTemplate).mergeSort ReportRow.nameBefore).mapM ReportRow.toReport

end Store

end PortfolioReports
