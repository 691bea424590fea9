import PortfolioReports.Json.Typed
import PortfolioReports.Records.Benchmark
import PortfolioReports.Reporting.Call
import PortfolioReports.Statistics.Comparison
import PortfolioReports.Store.Benchmarks

namespace PortfolioReports

open Json

structure ProjectFigures where
  metrics : List (String × Float)
  peers : List (PeerProject Float)

namespace ProjectFigures

def empty : ProjectFigures := ⟨[], []⟩

def ofJson? (j : Json) : Option ProjectFigures := do
  let r ← j.record? ["metrics", "peers"]
  let metrics ← r.fieldOr "metrics" (asEntries? asFloat?) []
  let peers ← r.fieldOr "peers" (asList? PeerProject.ofJson?) []
  pure ⟨metrics, peers⟩

def fits (wanted : String) (trait? : Option String) : Bool := wanted.isEmpty || trait?.all fun t => t == wanted

def peersOf (f : ProjectFigures) (methodology region : String) : List (PeerProject Float) :=
  f.peers.filter fun p => fits methodology p.methodology? && fits region p.region?

end ProjectFigures

open Calendar

namespace NewBenchmark

def hasFall : List Float → Bool
  | a :: b :: rest => b < a || hasFall (b :: rest)
  | _ => false

def validate (b : NewBenchmark) : Except Fault Unit :=
  if Text.isBlankText b.name || Text.isBlankText b.category then
    .error (.invalidConfig .benchmarkNameRequired)
  else
    match b.metrics.find? fun m => hasFall m.spread.anchors with
    | some m => .error (.invalidConfig (.anchorsOutOfOrder m.metric))
    | none => .ok ()

def benchmark (b : NewBenchmark) (id : Uuid) (createdAt updatedAt : Moment) : Benchmark where
  id := id
  name := b.name
  description? := b.description?
  category := b.category
  methodology? := b.methodology?
  region? := b.region?
  year := b.year
  source? := b.source?
  confidence? := b.confidence?
  isActive := b.isActive
  metrics := b.metrics
  createdAt := createdAt
  updatedAt := updatedAt

end NewBenchmark

namespace Reporting

open Call

def createBenchmark (id : Uuid) (now : Moment) (request : NewBenchmark) : Call Benchmark := do
  check request.validate
  let b := request.benchmark id now now
  insert fun s => s.insertBenchmark b
  pure b

def getBenchmark (id : Uuid) : Call Benchmark := do
  found (.benchmark id) (← read .benchmarks fun s => s.getBenchmark id)

def updateBenchmark (id : Uuid) (now : Moment) (request : NewBenchmark) : Call Benchmark := do
  check request.validate
  let old ← getBenchmark id
  let b := request.benchmark old.id old.createdAt now
  let _ ← change fun s => s.updateBenchmark b
  pure b

def deleteBenchmark (id : Uuid) : Call Unit := do
  changed (.benchmark id) (← change fun s => s.deleteBenchmark id)

def listBenchmarks (f : BenchmarkFilter) : Call (List Benchmark) := read .benchmarks fun s => s.listBenchmarks f

def compare (figures : ProjectFigures) (project : Uuid) (q : BenchmarkQuery) : Call (Comparison Float) := do
  let found ← read .benchmarks fun s => s.findBenchmark q
  check (Comparison.answer project q (.ok figures.metrics) (.ok found))

def peerPercentile (figures : ProjectFigures) (project : Uuid) (metric methodology region : String) : Call Float :=
  check (PeerProject.percentile project metric (figures.peersOf methodology region))

end Reporting

end PortfolioReports
