import PortfolioReports.Csv.Dialect
import PortfolioReports.Dashboard.Config
import PortfolioReports.Fault
import PortfolioReports.Pages.Setup

namespace PortfolioReports

structure Settings where
  summaryTtlSecs : Nat
  recentTtlSecs : Nat
  historicalTtlSecs : Nat
  cleanupIntervalSecs : Nat
  maxItems : Nat
  csvDelimiter : Char
  pdfOrientation : Orientation
  pdfPageSize : PageSize
deriving DecidableEq

inductive SettingKey where
  | summaryTtl
  | recentTtl
  | historicalTtl
  | cleanupInterval
  | maxItems
  | csvDelimiter
  | pdfOrientation
  | pdfPageSize
deriving DecidableEq, Repr

instance : Vocabulary SettingKey where
  title := "setting"
  all :=
    [.summaryTtl, .recentTtl, .historicalTtl, .cleanupInterval, .maxItems, .csvDelimiter,
     .pdfOrientation, .pdfPageSize]
  name
    | .summaryTtl => "dashboard.summary_ttl_secs"
    | .recentTtl => "dashboard.recent_ttl_secs"
    | .historicalTtl => "dashboard.historical_ttl_secs"
    | .cleanupInterval => "dashboard.cleanup_interval_secs"
    | .maxItems => "dashboard.max_items"
    | .csvDelimiter => "export.csv.delimiter"
    | .pdfOrientation => "export.pdf.orientation"
    | .pdfPageSize => "export.pdf.page_size"
  find?_name a := by cases a <;> decide

def readDigits (n : Nat) : List Char → Except NumeralFault Nat
  | [] => .ok n
  | c :: cs =>
    if c.isDigit then
      let n := n * 10 + (c.toNat - 48)
      if n < UInt64.size then readDigits n cs else .error .tooLarge
    else .error .digit

def readNumeral : List Char → Except NumeralFault Nat
  | [] => .error .empty
  | ['+'] => .error .digit
  | '+' :: cs => readDigits 0 cs
  | cs => readDigits 0 cs

def readWordAnyCase {α : Type} [Vocabulary α] (refuse : String → SettingFault) (s : String) :
    Except SettingFault α :=
  match (Vocabulary.all : List α).find? fun a => (Vocabulary.name a).toLower == s.toLower with
  | some a => .ok a
  | none => .error (refuse s.toLower)

namespace Settings

def standard : Settings := ⟨300, 300, 3600, 600, 1000, ',', .landscape, .a4⟩

def readSeconds (key : SettingKey) (value : String) : Except SettingFault Nat :=
  match readNumeral (Text.trim value).toList with
  | .ok n => .ok n
  | .error cause => .error (.numeral (Vocabulary.name key) cause)

def apply (s : Settings) (key : SettingKey) (value : String) : Except SettingFault Settings :=
  match key with
  | .summaryTtl => (readSeconds key value).map fun n => { s with summaryTtlSecs := n }
  | .recentTtl => (readSeconds key value).map fun n => { s with recentTtlSecs := n }
  | .historicalTtl => (readSeconds key value).map fun n => { s with historicalTtlSecs := n }
  | .cleanupInterval => (readSeconds key value).map fun n => { s with cleanupIntervalSecs := n }
  | .maxItems => (readSeconds key value).map fun n => { s with maxItems := n }
  | .csvDelimiter => match value.toList with
    | [c] => .ok { s with csvDelimiter := c }
    | _ => .error (.notOneCharacter (Vocabulary.name key) value)
  | .pdfOrientation =>
    (readWordAnyCase .unknownOrientation value).map fun o => { s with pdfOrientation := o }
  | .pdfPageSize => (readWordAnyCase .unknownPageSize value).map fun p => { s with pdfPageSize := p }

def applyPair (s : Settings) (pair : String × String) : Except SettingFault Settings :=
  match (Vocabulary.ofName? pair.1 : Option SettingKey) with
  | some key => s.apply key pair.2
  | none => .ok s

def ofPairs (pairs : List (String × String)) : Except Fault Settings :=
  match pairs.foldlM applyPair standard with
  | .ok s => .ok s
  | .error cause => .error (.setting cause)

def validate (key value : String) : Except Fault Unit :=
  match (Vocabulary.ofName? key : Option SettingKey) with
  | some k => match standard.apply k value with
    | .ok _ => .ok ()
    | .error cause => .error (.setting cause)
  | none => .error (.setting (.unknownKey key))

def csv (s : Settings) : CsvDialect := { CsvDialect.standard with delimiter := s.csvDelimiter }

def pages (s : Settings) : PageSetup Float :=
  { PageSetup.standard with orientation := s.pdfOrientation, size := s.pdfPageSize }

def dashboard (s : Settings) : DashboardConfig where
  cache := ⟨.ofSeconds s.summaryTtlSecs, .ofSeconds s.cleanupIntervalSecs, s.maxItems⟩
  summaryTtl := .ofSeconds s.summaryTtlSecs
  recentTtl := .ofSeconds s.recentTtlSecs
  historicalTtl := .ofSeconds s.historicalTtlSecs
  activityLimit := 10
  metrics := DashboardConfig.defaultMetrics
  metricPeriod := "30d"

def toJson (s : Settings) : Json := .object
  [("summary_ttl_secs", .ofNat s.summaryTtlSecs), ("recent_ttl_secs", .ofNat s.recentTtlSecs),
   ("historical_ttl_secs", .ofNat s.historicalTtlSecs),
   ("cleanup_interval_secs", .ofNat s.cleanupIntervalSecs), ("max_items", .ofNat s.maxItems),
   ("csv_delimiter", .text (String.ofList [s.csvDelimiter])),
   ("pdf_orientation", .ofWord s.pdfOrientation), ("pdf_page_size", .ofWord s.pdfPageSize)]

end Settings

end PortfolioReports
