import PortfolioReports.Records.Benchmark
import PortfolioReports.Store.Column

namespace PortfolioReports

structure BenchmarkRow where
  id : String
  name : String
  description? : Option String
  category : String
  methodology? : Option String
  region? : Option String
  year : Int32
  source? : Option String
  confidence? : Option Float
  isActive : Bool
  metrics : String
  createdAt : String
  updatedAt : String

namespace BenchmarkRow

open Stored Calendar

def ofBenchmark (b : Benchmark) : BenchmarkRow where
  id := b.id.toText
  name := b.name
  description? := b.description?
  category := b.category
  methodology? := b.methodology?
  region? := b.region?
  year := b.year
  source? := b.source?
  confidence? := b.confidence?.bind real
  isActive := b.isActive
  metrics := (Json.list (b.metrics.map BenchmarkMetric.toJson)).print
  createdAt := utcText b.createdAt
  updatedAt := utcText b.updatedAt

def toBenchmark (b : BenchmarkRow) : Except StoreFault Benchmark := do
  let id ← readUuid 0 b.id
  let metrics ← readJson (.list BenchmarkMetric.shape) (Json.asList? BenchmarkMetric.ofJson?) 10 b.metrics
  let createdAt ← readTime 11 b.createdAt
  let updatedAt ← readTime 12 b.updatedAt
  pure ⟨id, b.name, b.description?, b.category, b.methodology?, b.region?, b.year, b.source?,
    b.confidence?, b.isActive, metrics, createdAt, updatedAt⟩

def overwrite? (column value : String) (b : BenchmarkRow) : Option BenchmarkRow :=
  match column with
  | "id" => some { b with id := value }
  | "name" => some { b with name := value }
  | "description" => some { b with description? := some value }
  | "category" => some { b with category := value }
  | "methodology" => some { b with methodology? := some value }
  | "region" => some { b with region? := some value }
  | "source" => some { b with source? := some value }
  | "metrics" => some { b with metrics := value }
  | "created_at" => some { b with createdAt := value }
  | "updated_at" => some { b with updatedAt := value }
  | _ => none

end BenchmarkRow

end PortfolioReports
