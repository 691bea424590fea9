import PortfolioReports.CommandLine.Command

namespace PortfolioReports.CommandLine

open OptionUsage CommandTree

def commandOf (operands : List ArgumentKind) (options : List OptionUsage) (build : Arguments → Option Command) :
    CommandTree := .command ⟨operands, false, options⟩ build

def aboutId (build : Uuid → Command) : CommandTree := commandOf [.uuid] [] fun a => build <$> a.uuid? 0

def aboutFile (build : String → Command) : CommandTree := commandOf [.path] [] fun a => build <$> a.operand? 0

def aboutIdAndFile (build : Uuid → String → Command) : CommandTree :=
  commandOf [.uuid, .path] [] fun a => build <$> a.uuid? 0 <*> a.operand? 1

def formatOption : OptionUsage := .optional "format" (.oneOf ExportFormat)

def outOption : OptionUsage := ⟨"out", some 'o', .value .path false⟩

def formatOf (a : Arguments) : Option ExportFormat := a.givenOr "format" Vocabulary.ofName? .csv

def compileTree : CommandTree :=
  commandOf [.path] [switch "count"] fun a => do
    pure (.compile (← a.operand? 0) (a.has "count"))

def exportTree : CommandTree :=
  commandOf [.path] [formatOption, optional "config" .path, optional "title" .text, outOption] fun a => do
    pure (.exportRows (← a.operand? 0) (← formatOf a) (a.value? "config") (a.value? "title") (a.value? "out"))

def compareTree : CommandTree :=
  commandOf [.uuid]
    [required "metrics" .path, required "category" .text, optional "methodology" .text, optional "region" .text,
     optional "year" .year, switch "json"] fun a => do
    let year? ← a.given? "year" readYear?
    let query := ⟨← a.value? "category", a.value? "methodology", a.value? "region", year?⟩
    pure (.compare (← a.uuid? 0) (← a.value? "metrics") query (a.has "json"))

def percentileTree : CommandTree :=
  commandOf [.uuid, .text]
    [required "metrics" .path, optional "methodology" .text, optional "region" .text] fun a => do
    pure (.percentile (← a.uuid? 0) (← a.operand? 1) (← a.value? "metrics") ((a.value? "methodology").getD "")
      ((a.value? "region").getD ""))

def trendTree : CommandTree :=
  .command ⟨[.float], true, [switch "json"]⟩ fun a => do
    pure (.trend (← a.operands.mapM Numeric.readFloat?) (a.has "json"))

def listReportsTree : CommandTree :=
  commandOf []
    [optional "user" .uuid, optional "category" (.oneOf Category), optional "visibility" (.oneOf Visibility),
     switch "templates", optional "search" .text, optional "page" .count, optional "page-size" .count,
     switch "json"] fun a => do
    let user? ← a.given? "user" Uuid.ofText?
    let category? ← a.given? "category" Vocabulary.ofName?
    let visibility? ← a.given? "visibility" Vocabulary.ofName?
    let isTemplate? := if a.has "templates" then some true else none
    let page ← a.givenOr "page" readCount? 1
    let pageSize ← a.givenOr "page-size" readCount? defaultPageSize
    pure (.listReports ⟨user?, category?, visibility?, isTemplate?, a.value? "search", page, pageSize⟩ (a.has "json"))

def cloneTree : CommandTree :=
  commandOf [.uuid, .text] [optional "owner" .uuid] fun a => do
    pure (.cloneReport (← a.uuid? 0) (← a.operand? 1) (← a.given? "owner" Uuid.ofText?))

def runTree : CommandTree :=
  commandOf [.uuid] [required "rows" .path, formatOption, optional "triggered-by" .uuid, outOption] fun a => do
    pure (.runReport (← a.uuid? 0) (← a.value? "rows") (← formatOf a) (← a.given? "triggered-by" Uuid.ofText?)
      (a.value? "out"))

def executionsTree : CommandTree :=
  commandOf []
    [optional "report" .uuid, optional "status" (.oneOf ExecutionStatus), optional "limit" .count] fun a => do
    let report? ← a.given? "report" Uuid.ofText?
    let status? ← a.given? "status" Vocabulary.ofName?
    pure (.listExecutions ⟨report?, status?, ← a.givenOr "limit" readCount? defaultPageSize⟩)

def reportTree : CommandTree := grouped
  [("create", aboutFile .createReport), ("list", listReportsTree), ("show", aboutId .showReport),
   ("update", aboutIdAndFile .updateReport), ("delete", aboutId .deleteReport), ("clone", cloneTree),
   ("templates", commandOf [] [] fun _ => some .listTemplates), ("run", runTree), ("executions", executionsTree),
   ("cancel", aboutId .cancelExecution)]

def listSchedulesTree : CommandTree :=
  commandOf [] [optional "report" .uuid] fun a => .listSchedules <$> a.given? "report" Uuid.ofText?

def scheduleTree : CommandTree := grouped
  [("create", aboutFile .createSchedule), ("list", listSchedulesTree),
   ("enable", aboutId fun id => .setScheduleActive id true),
   ("disable", aboutId fun id => .setScheduleActive id false), ("delete", aboutId .deleteSchedule)]

def listBenchmarksTree : CommandTree :=
  commandOf [] [optional "category" .text, optional "year" .year, switch "json"] fun a => do
    let year? ← a.given? "year" readYear?
    pure (.listBenchmarks ⟨a.value? "category", none, none, year?, none⟩ (a.has "json"))

def benchmarkTree : CommandTree := grouped
  [("import", aboutFile .importBenchmarks), ("update", aboutIdAndFile .updateBenchmark),
   ("list", listBenchmarksTree), ("show", aboutId .showBenchmark), ("delete", aboutId .deleteBenchmark)]

def listWidgetsTree : CommandTree :=
  commandOf [] [optional "user" .uuid, optional "section" .text] fun a => do
    pure (.listWidgets (← a.given? "user" Uuid.ofText?) (a.value? "section"))

def widgetTree : CommandTree := grouped
  [("save", aboutFile .saveWidget), ("list", listWidgetsTree), ("delete", aboutId .deleteWidget)]

def configTree : CommandTree := grouped
  [("get", commandOf [.text] [] fun a => .getSetting <$> a.operand? 0),
   ("set", commandOf [.text, .text] [] fun a => .putSetting <$> a.operand? 0 <*> a.operand? 1),
   ("list", commandOf [] [] fun _ => some .listSettings)]

def tree : CommandTree := .group
  ⟨[], false, [optional "db" .text, ⟨"verbose", some 'v', .repeatable⟩]⟩
  [("compile", compileTree), ("export", exportTree), ("compare", compareTree), ("percentile", percentileTree),
   ("trend", trendTree), ("report", reportTree), ("schedule", scheduleTree), ("benchmark", benchmarkTree),
   ("widget", widgetTree), ("datasets", commandOf [] [switch "json"] fun a => some (.datasets (a.has "json"))),
   ("config", configTree), ("status", commandOf [] [] fun _ => some .status)]

mutual

def CommandTree.paths : CommandTree → List (List String)
  | command .. => [[]]
  | group _ members => pathsOfMembers members

def CommandTree.pathsOfMembers : List (String × CommandTree) → List (List String)
  | [] => []
  | (name, t) :: rest => t.paths.map (fun path => name :: path) ++ pathsOfMembers rest

end

def helpText : String :=
  "Commands:\n" ++ String.join (tree.paths.map fun path => "  " ++ " ".intercalate path ++ "\n")

def usageText : String := "The command, its operands or its options are not right; try --help"

def Invocation.read (arguments : List String) : Except Stop Invocation :=
  (tree.scan .empty none arguments).map fun found => ⟨found.1.value? "db", found.2⟩

end PortfolioReports.CommandLine
