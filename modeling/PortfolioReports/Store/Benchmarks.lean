import PortfolioReports.Records.Filter
import PortfolioReports.Store.Basic

/-!
Benchmarks of a category or of a year are read through an index of category, methodology, region and year. Rows that
an answer's order leaves tied come in the order in which the index, or the table, is read.
-/

namespace PortfolioReports

def optionalBefore (a b : Option String) : Bool :=
  match a, b with
  | none, some _ => true
  | some a, some b => a < b
  | _, none => false

namespace BenchmarkRow

def passes (f : BenchmarkFilter) (b : BenchmarkRow) : Bool :=
  f.category?.all (fun x => b.category == x) &&
  f.methodology?.all (fun x => b.methodology? == some x) &&
  f.region?.all (fun x => b.region? == some x) &&
  f.year?.all (fun x => b.year == x) &&
  f.isActive?.all (fun x => b.isActive == x)

def indexedBefore (a b : BenchmarkRow) : Bool :=
  optionalBefore a.methodology? b.methodology? ||
  (a.methodology? == b.methodology? &&
    (optionalBefore a.region? b.region? || (a.region? == b.region? && a.year ≤ b.year)))

/-- The rows in the order in which they are read. The index is read backwards where that gives the years
in falling order. -/
def scan (f : BenchmarkFilter) (rows : List BenchmarkRow) : List BenchmarkRow :=
  let indexed := rows.mergeSort indexedBefore
  if f.year?.isSome then indexed
  else if f.category?.isNone then rows
  else if f.methodology?.isSome && f.region?.isSome then indexed.reverse
  else indexed

def listedBefore (a b : BenchmarkRow) : Bool :=
  b.year < a.year || (a.year == b.year &&
    (a.category < b.category || (a.category == b.category && !(b.name < a.name))))

def newerBefore (a b : BenchmarkRow) : Bool :=
  b.year < a.year || (a.year == b.year && !(a.updatedAt < b.updatedAt))

def updateFrom (new old : BenchmarkRow) : BenchmarkRow := { new with id := old.id, createdAt := old.createdAt }

end BenchmarkRow

def BenchmarkQuery.filter (q : BenchmarkQuery) : BenchmarkFilter where
  category? := some q.category
  methodology? := q.methodology?.filter fun s => !s.isEmpty
  region? := q.region?.filter fun s => !s.isEmpty
  year? := q.year?.filter fun y => 0 < y
  isActive? := some true

namespace Store

def hasBenchmark (s : Store) (id : Uuid) : Bool := s.benchmarks.any fun b => b.id == id.toText

def insertBenchmark (s : Store) (b : Benchmark) : Except StoreFault Store :=
  if s.hasBenchmark b.id then .error (.duplicateId "benchmark_datasets")
  else .ok { s with benchmarks := s.benchmarks ++ [.ofBenchmark b] }

def getBenchmark (s : Store) (id : Uuid) : Except StoreFault (Option Benchmark) :=
  readFirst (fun b => b.id == id.toText) BenchmarkRow.toBenchmark s.benchmarks

def updateBenchmark (s : Store) (b : Benchmark) : Store × Bool :=
  ({ s with
      benchmarks := change (fun r => r.id == b.id.toText) (BenchmarkRow.ofBenchmark b).updateFrom s.benchmarks },
    s.hasBenchmark b.id)

def deleteBenchmark (s : Store) (id : Uuid) : Store × Bool :=
  ({ s with benchmarks := s.benchmarks.filter fun b => b.id != id.toText }, s.hasBenchmark id)

def matchingBenchmarks (s : Store) (f : BenchmarkFilter) : List BenchmarkRow :=
  (BenchmarkRow.scan f s.benchmarks).filter (BenchmarkRow.passes f)

def listBenchmarks (s : Store) (f : BenchmarkFilter) : Except StoreFault (List Benchmark) :=
  ((s.matchingBenchmarks f).mergeSort BenchmarkRow.listedBefore).mapM BenchmarkRow.toBenchmark

def findBenchmark (s : Store) (q : BenchmarkQuery) : Except StoreFault (Option Benchmark) :=
  match ((s.matchingBenchmarks q.filter).mergeSort BenchmarkRow.newerBefore).head? with
  | some b => b.toBenchmark.map some
  | none => .ok none

end Store

end PortfolioReports
