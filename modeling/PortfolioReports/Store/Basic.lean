import PortfolioReports.Store.BenchmarkRow
import PortfolioReports.Store.ExecutionRow
import PortfolioReports.Store.ReportRow
import PortfolioReports.Store.ScheduleRow
import PortfolioReports.Store.WidgetRow

/-!
Rows stand in the order in which they were inserted. Identifiers are unique in their table, and executions and
schedules refer to reports that are there, deleted or not.
-/

namespace PortfolioReports

structure Store where
  reports : List ReportRow
  executions : List ExecutionRow
  schedules : List ScheduleRow
  benchmarks : List BenchmarkRow
  widgets : List WidgetRow
  settings : List (String × String)

namespace Store

def empty : Store := ⟨[], [], [], [], [], []⟩

def readFirst {ρ α : Type} (holds : ρ → Bool) (read : ρ → Except StoreFault α) (rows : List ρ) :
    Except StoreFault (Option α) :=
  match rows.find? holds with
  | some r => (read r).map some
  | none => .ok none

def change {ρ : Type} (holds : ρ → Bool) (f : ρ → ρ) (rows : List ρ) : List ρ :=
  rows.map fun r => if holds r then f r else r

def hasReport (s : Store) (id : String) : Bool := s.reports.any fun r => r.id == id

def getSetting (s : Store) (key : String) : Option String := s.settings.lookup key

def putSetting (s : Store) (key value : String) : Store :=
  { s with settings := insertSorted key value s.settings }

end Store

structure Census where
  reports : Nat
  templates : Nat
  activeSchedules : Nat
  executions : Nat
  failedExecutions : Nat
  activeBenchmarks : Nat
  widgets : Nat
  lastRun? : Option String

def lastText? : List String → Option String
  | [] => none
  | s :: rest => some (rest.foldl (fun a b => if a < b then b else a) s)

namespace Store

def census (s : Store) : Census where
  reports := s.reports.countP ReportRow.isLive
  templates := s.reports.countP fun r => r.isLive && r.isTemplate
  activeSchedules := s.schedules.countP ScheduleRow.isActive
  executions := s.executions.length
  failedExecutions := s.executions.countP fun e => e.status == Vocabulary.name ExecutionStatus.failed
  activeBenchmarks := s.benchmarks.countP BenchmarkRow.isActive
  widgets := s.widgets.length
  lastRun? := lastText?
    ((s.executions.filter fun e => e.status == Vocabulary.name ExecutionStatus.completed).filterMap
      ExecutionRow.completedAt?)

end Store

end PortfolioReports
