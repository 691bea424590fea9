import PortfolioReports.Calendar.Date
import PortfolioReports.Calendar.Moment
import PortfolioReports.Calendar.Pattern
import PortfolioReports.Calendar.Reading
import PortfolioReports.CommandLine.Command
import PortfolioReports.CommandLine.Host
import PortfolioReports.CommandLine.Lines
import PortfolioReports.CommandLine.MemoryHost
import PortfolioReports.CommandLine.Run
import PortfolioReports.CommandLine.StoreAddress
import PortfolioReports.CommandLine.Tree
import PortfolioReports.CommandLine.Usage
import PortfolioReports.Csv.Dialect
import PortfolioReports.Csv.Stream
import PortfolioReports.Csv.Task
import PortfolioReports.Csv.Writer
import PortfolioReports.Dashboard.Board
import PortfolioReports.Dashboard.Config
import PortfolioReports.Dashboard.Memory
import PortfolioReports.Dashboard.Source
import PortfolioReports.Dashboard.Summary
import PortfolioReports.Fault
import PortfolioReports.Json.Basic
import PortfolioReports.Json.Diagnosis
import PortfolioReports.Json.Fault
import PortfolioReports.Json.Parser
import PortfolioReports.Json.Printer
import PortfolioReports.Json.Record
import PortfolioReports.Json.Shape
import PortfolioReports.Json.Token
import PortfolioReports.Json.Typed
import PortfolioReports.Main
import PortfolioReports.Numeric.Layout
import PortfolioReports.Numeric.Reading
import PortfolioReports.Numeric.Scalar
import PortfolioReports.Numeric.Shortest
import PortfolioReports.Pages.Content
import PortfolioReports.Pages.Drawing
import PortfolioReports.Pages.Layout
import PortfolioReports.Pages.Setup
import PortfolioReports.Proofs.Calendar.Civil
import PortfolioReports.Proofs.Calendar.Stamp
import PortfolioReports.Proofs.CommandLine.Exports
import PortfolioReports.Proofs.Csv.Delimiters
import PortfolioReports.Proofs.Csv.Reader
import PortfolioReports.Proofs.Csv.Task
import PortfolioReports.Proofs.Dashboard.Answers
import PortfolioReports.Proofs.Dashboard.Assembly
import PortfolioReports.Proofs.Dashboard.Invalidation
import PortfolioReports.Proofs.Memory.Room
import PortfolioReports.Proofs.Memory.Sweeping
import PortfolioReports.Proofs.Memory.TimedMap
import PortfolioReports.Proofs.Numeric.Sums
import PortfolioReports.Proofs.Pages.Breaks
import PortfolioReports.Proofs.Pages.CellTexts
import PortfolioReports.Proofs.Pages.Edges
import PortfolioReports.Proofs.Pages.Tables
import PortfolioReports.Proofs.Query.Columns
import PortfolioReports.Proofs.Query.Enumerated
import PortfolioReports.Proofs.Query.Inertness
import PortfolioReports.Proofs.Query.Operands
import PortfolioReports.Proofs.Reporting.Deletion
import PortfolioReports.Proofs.Reporting.HiddenFields
import PortfolioReports.Proofs.Reporting.KeptFields
import PortfolioReports.Proofs.Reporting.LateWrites
import PortfolioReports.Proofs.Reporting.LostUpdates
import PortfolioReports.Proofs.Reporting.ReportPages
import PortfolioReports.Proofs.Reporting.RunRecords
import PortfolioReports.Proofs.Reporting.StoredBenchmarks
import PortfolioReports.Proofs.Reporting.StoredReports
import PortfolioReports.Proofs.Reporting.StoredSchedules
import PortfolioReports.Proofs.Reporting.StoredSettings
import PortfolioReports.Proofs.Reporting.StoredWidgets
import PortfolioReports.Proofs.Reporting.SubstringSearch
import PortfolioReports.Proofs.Spreadsheet.Dates
import PortfolioReports.Proofs.Spreadsheet.Table
import PortfolioReports.Proofs.Statistics.Comparison
import PortfolioReports.Proofs.Statistics.Peers
import PortfolioReports.Proofs.Statistics.Rank
import PortfolioReports.Proofs.Statistics.Shortfall
import PortfolioReports.Proofs.Statistics.Trend
import PortfolioReports.Proofs.Store.BestBenchmark
import PortfolioReports.Proofs.Store.ReadBack
import PortfolioReports.Proofs.Store.TimeOrder
import PortfolioReports.Proofs.Store.Visibility
import PortfolioReports.Proofs.Table.Erasure
import PortfolioReports.Proofs.Table.Insertion
import PortfolioReports.Query.Admission
import PortfolioReports.Query.Basic
import PortfolioReports.Query.Catalog
import PortfolioReports.Query.Statement
import PortfolioReports.Query.Terms
import PortfolioReports.Records.Benchmark
import PortfolioReports.Records.Execution
import PortfolioReports.Records.Filter
import PortfolioReports.Records.Report
import PortfolioReports.Records.Schedule
import PortfolioReports.Records.Status
import PortfolioReports.Records.Terms
import PortfolioReports.Records.Widget
import PortfolioReports.Reporting.Benchmarks
import PortfolioReports.Reporting.Call
import PortfolioReports.Reporting.Executions
import PortfolioReports.Reporting.Fetch
import PortfolioReports.Reporting.Message
import PortfolioReports.Reporting.Preferences
import PortfolioReports.Reporting.Rendering
import PortfolioReports.Reporting.Reports
import PortfolioReports.Reporting.Request
import PortfolioReports.Reporting.Schedules
import PortfolioReports.Reporting.Widgets
import PortfolioReports.Settings
import PortfolioReports.Spreadsheet.Look
import PortfolioReports.Spreadsheet.Outline
import PortfolioReports.Spreadsheet.Serial
import PortfolioReports.Spreadsheet.Setup
import PortfolioReports.Spreadsheet.SharedText
import PortfolioReports.Spreadsheet.Sheet
import PortfolioReports.Spreadsheet.Workbook
import PortfolioReports.Statistics.Comparison
import PortfolioReports.Statistics.Rank
import PortfolioReports.Statistics.Trend
import PortfolioReports.Store.Access
import PortfolioReports.Store.Basic
import PortfolioReports.Store.BenchmarkRow
import PortfolioReports.Store.Benchmarks
import PortfolioReports.Store.Column
import PortfolioReports.Store.Damage
import PortfolioReports.Store.ExecutionRow
import PortfolioReports.Store.Executions
import PortfolioReports.Store.ReportRow
import PortfolioReports.Store.Reports
import PortfolioReports.Store.ScheduleRow
import PortfolioReports.Store.Schedules
import PortfolioReports.Store.Snapshot
import PortfolioReports.Store.WidgetRow
import PortfolioReports.Store.Widgets
import PortfolioReports.Table.Cell
import PortfolioReports.Table.Row
import PortfolioReports.Text.Blank
import PortfolioReports.Text.Case
import PortfolioReports.Text.Hex
import PortfolioReports.Text.Hidden
import PortfolioReports.Text.Lowercase
import PortfolioReports.Text.Quoted
import PortfolioReports.Text.Width
import PortfolioReports.Text.Wildcard
import PortfolioReports.Uuid
import PortfolioReports.Vocabulary
