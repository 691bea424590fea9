import PortfolioReports.Vocabulary

namespace PortfolioReports

inductive ExecutionStatus where
  | pending
  | processing
  | completed
  | failed
deriving DecidableEq, Repr

instance : Vocabulary ExecutionStatus where
  title := "ExecutionStatus"
  all := [.pending, .processing, .completed, .failed]
  name
    | .pending => "pending"
    | .processing => "processing"
    | .completed => "completed"
    | .failed => "failed"
  find?_name a := by cases a <;> decide

namespace ExecutionStatus

def isTerminal : ExecutionStatus → Bool
  | completed | failed => true
  | pending | processing => false

def canBecome : ExecutionStatus → ExecutionStatus → Bool
  | pending, processing | pending, failed | processing, completed | processing, failed => true
  | _, _ => false

theorem canBecome_of_isTerminal {a : ExecutionStatus} (h : a.isTerminal = true) (b : ExecutionStatus) :
    a.canBecome b = false := by
  cases a <;> simp_all [isTerminal, canBecome]

end ExecutionStatus

end PortfolioReports
