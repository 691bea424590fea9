import PortfolioReports.CommandLine.Usage
import PortfolioReports.Records.Benchmark
import PortfolioReports.Records.Filter

namespace PortfolioReports.CommandLine

inductive Command where
  | compile (config : String) (count : Bool)
  | exportRows (rows : String) (format : ExportFormat) (config? title? out? : Option String)
  | compare (project : Uuid) (metrics : String) (query : BenchmarkQuery) (json : Bool)
  | percentile (project : Uuid) (metric metrics methodology region : String)
  | trend (values : List Float) (json : Bool)
  | datasets (json : Bool)
  | status
  | createReport (file : String)
  | listReports (filter : ReportFilter) (json : Bool)
  | showReport (id : Uuid)
  | updateReport (id : Uuid) (file : String)
  | deleteReport (id : Uuid)
  | cloneReport (id : Uuid) (name : String) (owner? : Option Uuid)
  | listTemplates
  | runReport (id : Uuid) (rows : String) (format : ExportFormat) (triggeredBy? : Option Uuid) (out? : Option String)
  | listExecutions (filter : ExecutionFilter)
  | cancelExecution (id : Uuid)
  | createSchedule (file : String)
  | listSchedules (report? : Option Uuid)
  | setScheduleActive (id : Uuid) (isActive : Bool)
  | deleteSchedule (id : Uuid)
  | importBenchmarks (file : String)
  | updateBenchmark (id : Uuid) (file : String)
  | listBenchmarks (filter : BenchmarkFilter) (json : Bool)
  | showBenchmark (id : Uuid)
  | deleteBenchmark (id : Uuid)
  | saveWidget (file : String)
  | listWidgets (user? : Option Uuid) (area? : Option String)
  | deleteWidget (id : Uuid)
  | getSetting (key : String)
  | putSetting (key value : String)
  | listSettings

structure Invocation where
  store? : Option String
  command : Command

namespace Arguments

def operand? (a : Arguments) (i : Nat) : Option String := a.operands[i]?

def value? (a : Arguments) (name : String) : Option String := a.values.lookup name

def has (a : Arguments) (name : String) : Bool := a.switches.contains name

def uuid? (a : Arguments) (i : Nat) : Option Uuid := (a.operand? i).bind Uuid.ofText?

def given? {α : Type} (a : Arguments) (name : String) (read : String → Option α) : Option (Option α) :=
  match a.value? name with
  | some s => (read s).map some
  | none => some none

def givenOr {α : Type} (a : Arguments) (name : String) (read : String → Option α) (default : α) : Option α :=
  (a.given? name read).map fun v? => v?.getD default

end Arguments

inductive CommandTree where
  | command (usage : Usage) (build : Arguments → Option Command)
  | group (usage : Usage) (members : List (String × CommandTree))

namespace CommandTree

def grouped (members : List (String × CommandTree)) : CommandTree := group ⟨[], false, []⟩ members

def helpOn : CommandTree → List String → Stop
  | _, [] => .help
  | command .., _ :: _ => .misuse
  | group _ members, s :: rest =>
    match members.lookup s with
    | some t => t.helpOn rest
    | none => if s = "help" ∧ rest = [] then .help else .misuse

def scan (t : CommandTree) (a : Arguments) (awaiting : Option OptionUsage) :
    List String → Except Stop (Arguments × Command)
  | [] => match t with
    | command usage build => (usage.finish .empty).bind fun own => built own (build own)
    | group .. => .error .misuse
  | s :: rest =>
    match t, awaiting with
    | command usage build, _ => (usage.read (s :: rest)).bind fun own => built own (build own)
    | group usage members, some o =>
      if Usage.looksLikeOption s then .error .misuse
      else match Usage.addValue a o s with
        | .ok a => (group usage members).scan a none rest
        | .error stop => .error stop
    | group usage members, none =>
      match members.lookup s with
      | some member => (member.scan .empty none rest).map fun found => (a, found.2)
      | none =>
        if s = "help" then .error ((group usage members).helpOn rest)
        else if s = "--" then .error .misuse
        else match usage.readArgument a s with
          | .ok (a, awaiting) => (group usage members).scan a awaiting rest
          | .error stop => .error stop
where
  built (own : Arguments) : Option Command → Except Stop (Arguments × Command)
    | some c => .ok (own, c)
    | none => .error .misuse

end CommandTree

end PortfolioReports.CommandLine
