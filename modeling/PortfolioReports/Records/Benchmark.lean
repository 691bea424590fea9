import PortfolioReports.Records.Report

namespace PortfolioReports

open Calendar Json

structure Spread (α : Type) where
  p25 : α
  p50 : α
  p75 : α
  p90 : α
  min : α
  max : α

namespace Spread

variable {α β : Type}

def anchors (s : Spread α) : List α := [s.min, s.p25, s.p50, s.p75, s.p90, s.max]

def map (f : α → β) (s : Spread α) : Spread β := ⟨f s.p25, f s.p50, f s.p75, f s.p90, f s.min, f s.max⟩

end Spread

structure BenchmarkMetric (α : Type) where
  metric : String
  value : α
  unit : String
  spread : Spread α
  sampleSize : Nat

structure Benchmark where
  id : Uuid
  name : String
  description? : Option String
  category : String
  methodology? : Option String
  region? : Option String
  year : Int32
  source? : Option String
  confidence? : Option Float
  isActive : Bool
  metrics : List (BenchmarkMetric Float)
  createdAt : Moment
  updatedAt : Moment

namespace BenchmarkMetric

def shortName : String → String
  | "percentile_25" => "p25"
  | "percentile_50" => "p50"
  | "percentile_75" => "p75"
  | "percentile_90" => "p90"
  | s => s

def ofJson? (j : Json) : Option (BenchmarkMetric Float) := do
  let j : Json := match j with
    | .object fields => .object (fields.map fun f => (shortName f.1, f.2))
    | j => j
  let r ← j.record?
    ["metric", "value", "unit", "p25", "p50", "p75", "p90", "min", "max", "sample_size"]
  let metric ← r.field "metric" asText?
  let value ← r.fieldOr "value" asFloat? 0
  let unit ← r.fieldOr "unit" asText? ""
  let p25 ← r.field "p25" asFloat?
  let p50 ← r.field "p50" asFloat?
  let p75 ← r.field "p75" asFloat?
  let p90 ← r.field "p90" asFloat?
  let min ← r.field "min" asFloat?
  let max ← r.field "max" asFloat?
  let sampleSize ← r.fieldOr "sample_size" (asNat? 32) 0
  pure ⟨metric, value, unit, ⟨p25, p50, p75, p90, min, max⟩, sampleSize⟩

def shape : Shape := .record "BenchmarkMetric"
  [.required "metric" .text, .withDefault "value" .float, .withDefault "unit" .text,
   percentile "p25" "percentile_25", percentile "p50" "percentile_50",
   percentile "p75" "percentile_75", percentile "p90" "percentile_90",
   .required "min" .float, .required "max" .float, .withDefault "sample_size" .nat32]
where
  percentile (name other : String) : Member Shape := ⟨name, [other], true, .float⟩

def toJson (m : BenchmarkMetric Float) : Json := .object
  [("metric", .text m.metric), ("value", ofFloat m.value), ("unit", .text m.unit),
   ("p25", ofFloat m.spread.p25), ("p50", ofFloat m.spread.p50), ("p75", ofFloat m.spread.p75),
   ("p90", ofFloat m.spread.p90), ("min", ofFloat m.spread.min), ("max", ofFloat m.spread.max),
   ("sample_size", ofNat m.sampleSize)]

end BenchmarkMetric

namespace Benchmark

def ofJson? (j : Json) : Option Benchmark := do
  let r ← j.record?
    ["id", "name", "description", "category", "methodology", "region", "year", "source",
     "confidence_score", "is_active", "metrics", "created_at", "updated_at"]
  let id ← r.field "id" asUuid?
  let name ← r.field "name" asText?
  let description? ← r.optional "description" asText?
  let category ← r.field "category" asText?
  let methodology? ← r.optional "methodology" asText?
  let region? ← r.optional "region" asText?
  let year ← r.field "year" asInt32?
  let source? ← r.optional "source" asText?
  let confidence? ← r.optional "confidence_score" asFloat?
  let isActive ← r.field "is_active" asBool?
  let metrics ← r.field "metrics" (asList? BenchmarkMetric.ofJson?)
  let createdAt ← r.field "created_at" asMoment?
  let updatedAt ← r.field "updated_at" asMoment?
  pure ⟨id, name, description?, category, methodology?, region?, year, source?, confidence?, isActive,
    metrics, createdAt, updatedAt⟩

def toJson (b : Benchmark) : Json := .object
  [("id", ofUuid b.id), ("name", .text b.name), ("description", ofOption .text b.description?),
   ("category", .text b.category), ("methodology", ofOption .text b.methodology?),
   ("region", ofOption .text b.region?), ("year", .int b.year.toInt),
   ("source", ofOption .text b.source?), ("confidence_score", ofOption ofFloat b.confidence?),
   ("is_active", .bool b.isActive), ("metrics", .list (b.metrics.map BenchmarkMetric.toJson)),
   ("created_at", ofMoment b.createdAt), ("updated_at", ofMoment b.updatedAt)]

end Benchmark

structure NewBenchmark where
  name : String
  description? : Option String
  category : String
  methodology? : Option String
  region? : Option String
  year : Int32
  source? : Option String
  confidence? : Option Float
  isActive : Bool
  metrics : List (BenchmarkMetric Float)

namespace NewBenchmark

def ofJson? (j : Json) : Option NewBenchmark := do
  let r ← j.record?
    ["name", "description", "category", "methodology", "region", "year", "source",
     "confidence_score", "is_active", "metrics"]
  let name ← r.field "name" asText?
  let description? ← r.optionalOr "description" asText?
  let category ← r.field "category" asText?
  let methodology? ← r.optionalOr "methodology" asText?
  let region? ← r.optionalOr "region" asText?
  let year ← r.field "year" asInt32?
  let source? ← r.optionalOr "source" asText?
  let confidence? ← r.optionalOr "confidence_score" asFloat?
  let isActive ← r.fieldOr "is_active" asBool? true
  let metrics ← r.field "metrics" (asList? BenchmarkMetric.ofJson?)
  pure ⟨name, description?, category, methodology?, region?, year, source?, confidence?, isActive, metrics⟩

def toJson (b : NewBenchmark) : Json := .object
  [("name", .text b.name), ("description", ofOption .text b.description?),
   ("category", .text b.category), ("methodology", ofOption .text b.methodology?),
   ("region", ofOption .text b.region?), ("year", .int b.year.toInt),
   ("source", ofOption .text b.source?), ("confidence_score", ofOption ofFloat b.confidence?),
   ("is_active", .bool b.isActive), ("metrics", .list (b.metrics.map BenchmarkMetric.toJson))]

end NewBenchmark

structure BenchmarkQuery where
  category : String
  methodology? : Option String
  region? : Option String
  year? : Option Int32

namespace BenchmarkQuery

def ofJson? (j : Json) : Option BenchmarkQuery := do
  let r ← j.record? ["category", "methodology", "region", "year"]
  let category ← r.field "category" asText?
  let methodology? ← r.optionalOr "methodology" asText?
  let region? ← r.optionalOr "region" asText?
  let year? ← r.optionalOr "year" asInt32?
  pure ⟨category, methodology?, region?, year?⟩

def toJson (q : BenchmarkQuery) : Json := .object
  [("category", .text q.category), ("methodology", ofOption .text q.methodology?),
   ("region", ofOption .text q.region?), ("year", ofOption (fun y => .int y.toInt) q.year?)]

def display (q : BenchmarkQuery) : String :=
  let shown (lead : String) (v : Option String) := (v.map (lead ++ ·)).getD ""
  "category=" ++ q.category ++ shown " methodology=" q.methodology? ++ shown " region=" q.region? ++
    shown " year=" (q.year?.map fun y => toString y.toInt)

end BenchmarkQuery

structure PeerProject (α : Type) where
  id : Uuid
  metrics : List (String × α)
  methodology? : Option String
  region? : Option String

namespace PeerProject

def ofJson? (j : Json) : Option (PeerProject Float) := do
  let r ← j.record? ["project_id", "metrics", "methodology", "region"]
  let id ← r.field "project_id" asUuid?
  let metrics ← r.field "metrics" (asEntries? asFloat?)
  let methodology? ← r.optionalOr "methodology" asText?
  let region? ← r.optionalOr "region" asText?
  pure ⟨id, metrics, methodology?, region?⟩

def toJson (p : PeerProject Float) : Json := .object
  [("project_id", ofUuid p.id), ("metrics", .object (p.metrics.map fun m => (m.1, ofFloat m.2))),
   ("methodology", ofOption .text p.methodology?), ("region", ofOption .text p.region?)]

end PeerProject

end PortfolioReports
