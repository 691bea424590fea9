import PortfolioReports.Calendar.Reading
import PortfolioReports.Query.Terms
import PortfolioReports.Records.Status
import PortfolioReports.Text.Quoted
import PortfolioReports.Uuid

namespace PortfolioReports

open Text

inductive ConfigFault where
  | unknownWord (title word : String)
  | datasetRequired
  | fieldRequired
  | fieldOrCalculationRequired
  | unknownDataset (name : String)
  | unknownField (field dataset : String)
  | notAggregatable (field : String) (aggregate : Aggregate)
  | invalidIdentifier (name : String)
  | emptyExpression (calculation : String)
  | notFilterable (field : String)
  | valueNotAllowed (value field : String) (allowed : List String)
  | notGroupable (field : String)
  | grainNeedsDate (field : String) (type : FieldType)
  | unknownSortField (field : String)
  | disjunction (field : String)
  | reportNameRequired
  | scheduleNameRequired
  | webhookUrlRequired
  | cronFieldCount (found : Nat) (expression : String)
  | cronField (field expression : String)
  | benchmarkNameRequired
  | anchorsOutOfOrder (metric : String)
  | widgetTitleRequired
  | negativeRefresh

def ConfigFault.message : ConfigFault → String
  | .unknownWord title word => s!"unknown {title}: {word}"
  | .datasetRequired => "dataset is required"
  | .fieldRequired => "at least one field is required"
  | .fieldOrCalculationRequired => "at least one field or calculation is required"
  | .unknownDataset name => s!"unknown dataset: {name}"
  | .unknownField field dataset => s!"unknown field {field} in dataset {dataset}"
  | .notAggregatable field a => s!"field {field} cannot be aggregated with {Vocabulary.name a}"
  | .invalidIdentifier name => s!"invalid identifier: {name}"
  | .emptyExpression calculation => s!"calculation {calculation} has an empty expression"
  | .notFilterable field => s!"field {field} is not filterable"
  | .valueNotAllowed value field allowed =>
    s!"value {value} is not allowed for {field} (expected one of: " ++ ", ".intercalate allowed ++ ")"
  | .notGroupable field => s!"field {field} is not groupable"
  | .grainNeedsDate field type => s!"time grain requires a date field, {field} is {type.label}"
  | .unknownSortField field =>
    s!"sort field {field} is neither a dataset field nor an output column"
  | .disjunction field => s!"OR filter logic is not supported (filter on {field})"
  | .reportNameRequired => "report name is required"
  | .scheduleNameRequired => "schedule name is required"
  | .webhookUrlRequired => "webhook delivery requires a webhook_url"
  | .cronFieldCount n e => s!"cron expression must have 5 fields, got {n}: {quoted e}"
  | .cronField f e => s!"invalid cron field {quoted f} in {quoted e}"
  | .benchmarkNameRequired => "benchmark name and category are required"
  | .anchorsOutOfOrder metric =>
    s!"benchmark metric {metric} must satisfy min <= p25 <= p50 <= p75 <= p90 <= max"
  | .widgetTitleRequired => "widget title is required"
  | .negativeRefresh => "refresh_interval_seconds must not be negative"

inductive NumeralFault where
  | empty
  | digit
  | tooLarge
deriving DecidableEq, Repr

def NumeralFault.message : NumeralFault → String
  | .empty => "cannot parse integer from empty string"
  | .digit => "invalid digit found in string"
  | .tooLarge => "number too large to fit in target type"

inductive SettingFault where
  | unknownKey (key : String)
  | numeral (key : String) (cause : NumeralFault)
  | notOneCharacter (key value : String)
  | unknownOrientation (value : String)
  | unknownPageSize (value : String)
  | noHome

def SettingFault.message : SettingFault → String
  | .unknownKey key => s!"unknown setting: {key}"
  | .numeral key cause => s!"{key}: {cause.message}"
  | .notOneCharacter key value => s!"{key} must be a single character, got {quoted value}"
  | .unknownOrientation value => s!"unknown orientation: {value}"
  | .unknownPageSize value => s!"unknown page size: {value}"
  | .noHome => "cannot determine home directory"

inductive SheetFault where
  | offSheet
  | textTooLong
  | nameBlank (name : String)
  | nameTooLong (name : String)
  | nameCharacter (name : String)
  | nameApostrophe (name : String)
  | nameReused (name : String)
  | year (year : Int)

def SheetFault.message : SheetFault → String
  | .offSheet => "Row or column exceeds Excel's limits."
  | .textTooLong => "String exceeds Excel's limit of 32,767 characters."
  | .nameBlank name => s!"Worksheet name '{name}' cannot be blank."
  | .nameTooLong name => s!"Worksheet name '{name}' exceeds Excel's limit of 31 characters."
  | .nameCharacter name => s!"Worksheet name '{name}' cannot contain characters: '[ ] : * ? / \\'."
  | .nameApostrophe name => s!"Worksheet name '{name}' cannot start or end with an apostrophe."
  | .nameReused name => s!"Worksheet name '{name}' has already been used."
  | .year y => s!"Year {y} is outside of Excel's range of 1900 to 9999."

inductive RenderFault where
  | pattern
  | receiverGone
  | sheet (cause : SheetFault)

def RenderFault.message : RenderFault → String
  | .pattern => "invalid csv date or time format"
  | .receiverGone => "csv output receiver dropped"
  | .sheet cause => "xlsx: " ++ cause.message

inductive ColumnFault where
  | word (title w : String)
  | uuid (cause : UuidFault)
  | time (cause : Calendar.ReadingFault)
  | json (message : String)

def configLead : String := "Invalid report configuration: "

def ColumnFault.message : ColumnFault → String
  | .word title w => configLead ++ (ConfigFault.unknownWord title w).message
  | .uuid cause => cause.message
  | .time cause => cause.message
  | .json message => message

inductive StoreFault where
  | duplicateId (table : String)
  | duplicateKey
  | missingParent
  | patternTooLong
  | readOnly
  | noTable (name : String)
  | connectionClosed
  | conversion (column : Nat) (cause : ColumnFault)

def StoreFault.message : StoreFault → String
  | .duplicateId table => s!"UNIQUE constraint failed: {table}.id"
  | .duplicateKey => "UNIQUE constraint failed: app_config.key"
  | .missingParent => "FOREIGN KEY constraint failed"
  | .patternTooLong => "LIKE or GLOB pattern too complex"
  | .readOnly => "attempt to write a readonly database"
  | .noTable name => "no such table: " ++ name
  | .connectionClosed => "ConnectionClosed"
  | .conversion column cause =>
    s!"Conversion error from type Text at index: {column}, {cause.message}"

def StoreFault.told : StoreFault → String
  | .connectionClosed => StoreFault.connectionClosed.message
  | cause => s!"Error(\"{cause.message}\")"

inductive AddressFault where
  | authority (name : String)
  | mode (title word : String)
  | fileSystem (name : String)

def AddressFault.message : AddressFault → String
  | .authority name => "invalid uri authority: " ++ name
  | .mode title word => s!"no such {title} mode: {word}"
  | .fileSystem name => "no such vfs: " ++ name

inductive Missing where
  | report (id : Uuid)
  | execution (id : Uuid)
  | schedule (id : Uuid)
  | benchmark (id : Uuid)
  | widget (id : Uuid)
  | peerMetric (metric : String) (project : Uuid)

def Missing.message : Missing → String
  | .report id => s!"report {id.toText}"
  | .execution id => s!"execution {id.toText}"
  | .schedule id => s!"schedule {id.toText}"
  | .benchmark id => s!"benchmark {id.toText}"
  | .widget id => s!"widget {id.toText}"
  | .peerMetric metric project => s!"metric {metric} for project {project.toText} in peer group"

inductive PreparationFault where
  | foreign
  | readOnly
deriving DecidableEq

def PreparationFault.message : PreparationFault → String
  | .foreign => "file is not a database"
  | .readOnly => StoreFault.readOnly.message

inductive Fault where
  | invalidConfig (cause : ConfigFault)
  | dataSource (text : String)
  | render (cause : RenderFault)
  | benchmarkNotFound (query : String)
  | notFound (what : Missing)
  | invalidTransition (before after : ExecutionStatus)
  | cancelled
  | database (cause : StoreFault)
  | unopened (path : String)
  | address (cause : AddressFault)
  | unprepared (cause : PreparationFault)
  | setting (cause : SettingFault)
  | serialization (text : String)

def Fault.kind : Fault → String
  | .invalidConfig _ => "InvalidConfig"
  | .dataSource _ => "DataSource"
  | .render _ => "Render"
  | .benchmarkNotFound _ => "BenchmarkNotFound"
  | .notFound _ => "NotFound"
  | .invalidTransition .. => "InvalidTransition"
  | .cancelled => "Cancelled"
  | .database _ | .unopened _ | .address _ => "Database"
  | .unprepared _ => "Migration"
  | .setting _ => "Config"
  | .serialization _ => "Serialization"

def Fault.message : Fault → String
  | .invalidConfig cause => configLead ++ cause.message
  | .dataSource text => "Data source error: " ++ text
  | .render cause => "Render error: " ++ cause.message
  | .benchmarkNotFound query => "No benchmark found for " ++ query
  | .notFound what => "Entity not found: " ++ what.message
  | .invalidTransition a b =>
    s!"Invalid status transition: {Vocabulary.name a} -> {Vocabulary.name b}"
  | .cancelled => "Operation cancelled"
  | .database cause => "Database error: " ++ cause.told
  | .unopened path => "Database error: unable to open database file: " ++ path
  | .address cause => "Database error: " ++ cause.message
  | .unprepared cause => s!"Migration error: Error(\"{cause.message}\")"
  | .setting cause => "Configuration error: " ++ cause.message
  | .serialization text => "Serialization error: " ++ text

def Vocabulary.read {α : Type} [Vocabulary α] (s : String) : Except Fault α :=
  match ofName? s with
  | some a => .ok a
  | none => .error (.invalidConfig (.unknownWord (title α) s))

namespace ExecutionStatus

def checkBecomes (a b : ExecutionStatus) : Except Fault Unit :=
  if a.canBecome b then .ok () else .error (.invalidTransition a b)

end ExecutionStatus

end PortfolioReports
