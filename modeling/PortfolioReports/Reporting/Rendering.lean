import PortfolioReports.Csv.Writer
import PortfolioReports.Json.Printer
import PortfolioReports.Pages.Content
import PortfolioReports.Records.Terms
import PortfolioReports.Settings
import PortfolioReports.Spreadsheet.Outline

namespace PortfolioReports

open Calendar

inductive Rendering where
  | text (s : String)
  | workbook (w : Workbook)
  | pages (d : PagedDocument)

/-- The bytes that workbooks and pages are written as. -/
structure FileFormats where
  workbook : Workbook → ByteArray
  pages : PagedDocument → ByteArray

def FileFormats.outlines : FileFormats where
  workbook w := w.outline.print.toUTF8
  pages d := (Json.object d.outline).print.toUTF8

def Rendering.bytes (f : FileFormats) : Rendering → ByteArray
  | text s => s.toUTF8
  | workbook w => f.workbook w
  | pages d => f.pages d

structure Heading where
  title : String
  subtitle? : Option String
  time : Moment

def Row.project (columns : List Column) (r : Row) : Row :=
  if columns.isEmpty then r
  else .ofEntries (columns.map fun c => (c.key, (r.get? c.key).getD .null))

def rowsText (rows : List Row) : String := (Json.list (rows.map Row.toJson)).pretty

namespace Settings

def pagesUnder (s : Settings) (h : Heading) : PageSetup Float :=
  { s.pages with title := h.title, subtitle? := h.subtitle?, generatedAt? := some h.time }

def render (s : Settings) (format : ExportFormat) (h : Heading) (rows : List Row) (columns : List Column) :
    Except Fault Rendering :=
  match format with
  | .csv => (s.csv.encode rows columns).map .text
  | .excel => (WorkbookSetup.standard.singleSheet rows columns).map .workbook
  | .pdf =>
    let setup := s.pagesUnder h
    .ok (.pages (setup.document (setup.tablePages rows columns)))
  | .json => .ok (.text (rowsText (rows.map (Row.project columns))))

end Settings

end PortfolioReports
