import PortfolioReports.Vocabulary

namespace PortfolioReports

inductive Category where
  | financial
  | operational
  | compliance
  | custom
deriving DecidableEq, Repr

inductive Visibility where
  | ownerOnly
  | shared
  | everyone
deriving DecidableEq, Repr

inductive ExportFormat where
  | csv
  | excel
  | pdf
  | json
deriving DecidableEq, Repr

inductive DeliveryMethod where
  | email
  | s3
  | webhook
deriving DecidableEq, Repr

inductive WidgetKind where
  | chart
  | metric
  | table
  | gauge
deriving DecidableEq, Repr

inductive WidgetSize where
  | small
  | medium
  | large
  | full
deriving DecidableEq, Repr

instance : Vocabulary Category where
  title := "ReportCategory"
  all := [.financial, .operational, .compliance, .custom]
  name
    | .financial => "financial"
    | .operational => "operational"
    | .compliance => "compliance"
    | .custom => "custom"
  find?_name a := by cases a <;> decide

instance : Vocabulary Visibility where
  title := "Visibility"
  all := [.ownerOnly, .shared, .everyone]
  name
    | .ownerOnly => "private"
    | .shared => "shared"
    | .everyone => "public"
  find?_name a := by cases a <;> decide

instance : Vocabulary ExportFormat where
  title := "ExportFormat"
  all := [.csv, .excel, .pdf, .json]
  name
    | .csv => "csv"
    | .excel => "excel"
    | .pdf => "pdf"
    | .json => "json"
  find?_name a := by cases a <;> decide

instance : Vocabulary DeliveryMethod where
  title := "DeliveryMethod"
  all := [.email, .s3, .webhook]
  name
    | .email => "email"
    | .s3 => "s3"
    | .webhook => "webhook"
  find?_name a := by cases a <;> decide

instance : Vocabulary WidgetKind where
  title := "WidgetType"
  all := [.chart, .metric, .table, .gauge]
  name
    | .chart => "chart"
    | .metric => "metric"
    | .table => "table"
    | .gauge => "gauge"
  find?_name a := by cases a <;> decide

instance : Vocabulary WidgetSize where
  title := "WidgetSize"
  all := [.small, .medium, .large, .full]
  name
    | .small => "small"
    | .medium => "medium"
    | .large => "large"
    | .full => "full"
  find?_name a := by cases a <;> decide

def ExportFormat.extension : ExportFormat → String
  | .csv => "csv"
  | .excel => "xlsx"
  | .pdf => "pdf"
  | .json => "json"

end PortfolioReports
