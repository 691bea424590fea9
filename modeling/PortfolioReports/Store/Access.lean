import PortfolioReports.Fault

namespace PortfolioReports

inductive StoreTable where
  | reports
  | executions
  | schedules
  | benchmarks
  | widgets
  | settings
deriving DecidableEq, Repr

def StoreTable.name : StoreTable → String
  | .reports => "report_definitions"
  | .executions => "report_executions"
  | .schedules => "report_schedules"
  | .benchmarks => "benchmark_datasets"
  | .widgets => "dashboard_widgets"
  | .settings => "app_config"

inductive AccessKind where
  | read (table : StoreTable)
  | write
deriving DecidableEq, Repr

inductive StoreMode where
  | full
  | readOnly
  /-- What is written is kept from readers, who find nothing, not even tables. -/
  | unseen
  | lost
deriving DecidableEq, Repr

namespace StoreMode

def refusal? : StoreMode → AccessKind → Option StoreFault
  | readOnly, .write => some .readOnly
  | unseen, .read table => some (.noTable table.name)
  | lost, _ => some .connectionClosed
  | _, _ => none

end StoreMode

end PortfolioReports
