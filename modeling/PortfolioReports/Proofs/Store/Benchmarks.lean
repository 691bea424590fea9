import PortfolioReports.Proofs.Records.Benchmark
import PortfolioReports.Proofs.Store.Edits
import PortfolioReports.Proofs.Store.TimeOrder

/-!
A number that is infinite or undefined is written as `null`, which is not read as a number.
-/

namespace PortfolioReports

open Calendar Json Stored

namespace BenchmarkRow

def readMetrics (r : BenchmarkRow) : Except StoreFault (List (BenchmarkMetric Float)) :=
  readJson (.list BenchmarkMetric.shape) (asList? BenchmarkMetric.ofJson?) 10 r.metrics

def IsReadable (r : BenchmarkRow) : Prop := ∃ b, r.toBenchmark = .ok b

theorem isReadable_iff {r : BenchmarkRow} : r.IsReadable ↔ (∃ id, readUuid 0 r.id = .ok id) ∧
    (∃ metrics, r.readMetrics = .ok metrics) ∧ (∃ m, readTime 11 r.createdAt = .ok m) ∧
    ∃ m, readTime 12 r.updatedAt = .ok m := by
  simp only [IsReadable, toBenchmark, bind_eq_ok_iff]
  constructor
  · rintro ⟨_, id, hid, metrics, hmetrics, created, hcreated, updated, hupdated, -⟩
    exact ⟨⟨id, hid⟩, ⟨metrics, hmetrics⟩, ⟨created, hcreated⟩, updated, hupdated⟩
  · rintro ⟨⟨id, hid⟩, ⟨metrics, hmetrics⟩, ⟨created, hcreated⟩, updated, hupdated⟩
    exact ⟨_, id, hid, metrics, hmetrics, created, hcreated, updated, hupdated, rfl⟩

theorem exists_readMetrics_iff {r : BenchmarkRow} {metrics : List (BenchmarkMetric Float)}
    (hmetrics : r.metrics = (list (metrics.map BenchmarkMetric.toJson)).print)
    (hsizes : ∀ m ∈ metrics, m.sampleSize < 2 ^ 32) :
    (∃ l, r.readMetrics = .ok l) ↔ ∀ m ∈ metrics, m.IsFinite := by
  have hdepth : (list (metrics.map BenchmarkMetric.toJson)).depth ≤ depthLimit :=
    depth_list_map_le (n := 126) fun m _ => m.depth_toJson_le
  simp only [readMetrics, hmetrics, readJson_print_eq_ok_iff 10 hdepth]
  refine exists_asList?_reread_iff.trans (forall₂_congr fun m hm => ?_)
  simp only [BenchmarkMetric.ofJson?_toJson_eq_some_iff (hsizes m hm), exists_and_left, exists_eq, and_true]

variable {b : Benchmark}

theorem isReadable_ofBenchmark_iff (hcreated : b.createdAt.Storable) (hupdated : b.updatedAt.Storable)
    (hsizes : ∀ m ∈ b.metrics, m.sampleSize < 2 ^ 32) :
    (ofBenchmark b).IsReadable ↔ ∀ m ∈ b.metrics, m.IsFinite := by
  rw [isReadable_iff, exists_readMetrics_iff rfl hsizes]
  exact ⟨fun h => h.2.1,
    fun h => ⟨⟨_, readUuid_toText 0 b.id⟩, h, ⟨_, readTime_utcText 11 hcreated⟩, _, readTime_utcText 12 hupdated⟩⟩

theorem isReadable_updateFrom_iff {old : BenchmarkRow} (hold : old.IsReadable) (hupdated : b.updatedAt.Storable)
    (hsizes : ∀ m ∈ b.metrics, m.sampleSize < 2 ^ 32) :
    ((ofBenchmark b).updateFrom old).IsReadable ↔ ∀ m ∈ b.metrics, m.IsFinite := by
  obtain ⟨hid, -, hcreated, -⟩ := isReadable_iff.mp hold
  have hmetrics : ((ofBenchmark b).updateFrom old).metrics = (list (b.metrics.map BenchmarkMetric.toJson)).print := rfl
  rw [isReadable_iff, exists_readMetrics_iff hmetrics hsizes]
  exact ⟨fun h => h.2.1, fun h => ⟨hid, h, hcreated, _, readTime_utcText 12 hupdated⟩⟩

end BenchmarkRow

namespace Store

variable {s s' : Store}

def BenchmarksReadable (s : Store) : Prop := ∀ r ∈ s.benchmarks, r.IsReadable

structure ServesBenchmark (s : Store) (id : Uuid) : Prop where
  get : ∃ b, s.getBenchmark id = .ok (some b)
  list : ∀ f, ∃ l, s.listBenchmarks f = .ok l
  find : ∀ q, ∃ b?, s.findBenchmark q = .ok b?

theorem exists_listBenchmarks_iff {f : BenchmarkFilter} :
    (∃ l, s.listBenchmarks f = .ok l) ↔ ∀ r ∈ s.matchingBenchmarks f, r.IsReadable := by
  rw [listBenchmarks, exists_mapM_eq_ok_iff]
  simp only [List.mem_mergeSort, BenchmarkRow.IsReadable]

theorem matchingBenchmarks_readable (h : s.BenchmarksReadable) (f : BenchmarkFilter) :
    ∀ r ∈ s.matchingBenchmarks f, r.IsReadable := fun r hr => h r (mem_matchingBenchmarks.mp hr).1

theorem exists_findBenchmark (h : s.BenchmarksReadable) (q : BenchmarkQuery) : ∃ b?, s.findBenchmark q = .ok b? := by
  rw [findBenchmark]
  cases hhead : ((s.matchingBenchmarks q.filter).mergeSort BenchmarkRow.newerBefore).head? with
  | none => exact ⟨none, rfl⟩
  | some r =>
    have hr : r ∈ s.matchingBenchmarks q.filter := List.mem_mergeSort.mp (List.mem_of_head? hhead)
    obtain ⟨b, hb⟩ := matchingBenchmarks_readable h q.filter r hr
    exact ⟨some b, by simp only [hb]; rfl⟩

theorem exists_getBenchmark (h : s.BenchmarksReadable) {id : Uuid} (hid : s.hasBenchmark id = true) :
    ∃ b, s.getBenchmark id = .ok (some b) := by
  obtain ⟨r, hfind⟩ := Option.isSome_iff_exists.mp (List.find?_isSome.mpr (List.any_eq_true.mp hid))
  obtain ⟨b, hb⟩ := h r (List.mem_of_find?_eq_some hfind)
  exact ⟨b, by simp only [getBenchmark, readFirst, hfind, hb]; rfl⟩

theorem servesBenchmark_iff {id : Uuid} (hid : s.hasBenchmark id = true) :
    s.ServesBenchmark id ↔ s.BenchmarksReadable := by
  constructor
  · intro h r hr
    exact exists_listBenchmarks_iff.mp (h.list .all) r (mem_matchingBenchmarks.mpr ⟨hr, rfl⟩)
  · intro h
    exact ⟨exists_getBenchmark h hid, fun f => exists_listBenchmarks_iff.mpr (matchingBenchmarks_readable h f),
      exists_findBenchmark h⟩

def UniqueBenchmarkIds (s : Store) : Prop := (s.benchmarks.map BenchmarkRow.id).Nodup

/-- The store has taken in a benchmark under an identifier. Whether the others can be read is as before. -/
structure Takes (s : Store) (id : Uuid) (metrics : List (BenchmarkMetric Float)) (s' : Store) : Prop where
  has : s'.hasBenchmark id = true
  unique : s'.UniqueBenchmarkIds
  readable : s'.BenchmarksReadable ↔ s.BenchmarksReadable ∧ ∀ m ∈ metrics, m.IsFinite

variable {b : Benchmark}

theorem takes_insertBenchmark (hids : s.UniqueBenchmarkIds) (hcreated : b.createdAt.Storable)
    (hupdated : b.updatedAt.Storable) (hsizes : ∀ m ∈ b.metrics, m.sampleSize < 2 ^ 32)
    (h : s.insertBenchmark b = .ok s') : s.Takes b.id b.metrics s' := by
  unfold insertBenchmark at h
  split at h
  · cases h
  · rename_i hnew
    cases h
    refine ⟨?_, ?_, ?_⟩
    · simp [hasBenchmark, BenchmarkRow.ofBenchmark]
    · have hfresh : ∀ r ∈ s.benchmarks, r.id ≠ b.id.toText := by simpa [hasBenchmark] using hnew
      simp only [UniqueBenchmarkIds, List.map_append, List.map_cons, List.map_nil]
      refine List.nodup_append.mpr ⟨hids, List.nodup_singleton _, ?_⟩
      rintro _ hold _ hlast rfl
      obtain ⟨r, hr, hid⟩ := List.mem_map.mp hold
      exact hfresh r hr (hid.trans (List.mem_singleton.mp hlast))
    · simp only [BenchmarksReadable, List.forall_mem_append, List.forall_mem_singleton]
      rw [BenchmarkRow.isReadable_ofBenchmark_iff hcreated hupdated hsizes]

theorem takes_updateBenchmark (hids : s.UniqueBenchmarkIds) {old : Benchmark}
    (hold : s.getBenchmark b.id = .ok (some old)) (hupdated : b.updatedAt.Storable)
    (hsizes : ∀ m ∈ b.metrics, m.sampleSize < 2 ^ 32) : s.Takes b.id b.metrics (s.updateBenchmark b).1 := by
  obtain ⟨r, hr, hholds, hread⟩ := of_readFirst hold
  have hany : (s.benchmarks.any fun r => r.id == b.id.toText) = true := List.any_eq_true.mpr ⟨r, hr, hholds⟩
  obtain ⟨before, row, row', after, hrows, hrows', hrow, rfl⟩ :=
    replaced_of_change hids (fun _ => beq_iff_eq.mp) (BenchmarkRow.ofBenchmark b).updateFrom hany
  have hrow' : row ∈ s.benchmarks := hrows ▸ List.mem_append_right _ List.mem_cons_self
  -- the row that is replaced is the one that was read
  obtain rfl : row = r :=
    List.inj_on_of_nodup_map hids hrow' hr ((beq_iff_eq.mp hrow).trans (beq_iff_eq.mp hholds).symm)
  have hbenchmarks : (s.updateBenchmark b).1.benchmarks =
      before ++ (BenchmarkRow.ofBenchmark b).updateFrom row :: after := hrows'
  refine ⟨?_, ?_, ?_⟩
  · rw [hasBenchmark, hbenchmarks]
    exact List.any_eq_true.mpr ⟨_, List.mem_append_right _ List.mem_cons_self, hrow⟩
  · have hsame : (s.updateBenchmark b).1.benchmarks.map BenchmarkRow.id = s.benchmarks.map BenchmarkRow.id := by
      rw [hbenchmarks, hrows]
      simp [BenchmarkRow.updateFrom]
    rwa [UniqueBenchmarkIds, hsame]
  · simp only [BenchmarksReadable, hbenchmarks, hrows, List.forall_mem_append, List.forall_mem_cons]
    rw [BenchmarkRow.isReadable_updateFrom_iff ⟨old, hread⟩ hupdated hsizes]
    have hreadable : row.IsReadable := ⟨old, hread⟩
    simp only [hreadable, true_and]
    exact ⟨fun ⟨hbefore, hfinite, hafter⟩ => ⟨⟨hbefore, hafter⟩, hfinite⟩,
      fun ⟨⟨hbefore, hafter⟩, hfinite⟩ => ⟨hbefore, hfinite, hafter⟩⟩

end Store

end PortfolioReports
