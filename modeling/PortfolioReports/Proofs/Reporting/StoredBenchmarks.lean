import PortfolioReports.Proofs.Reporting.RowEffects
import PortfolioReports.Proofs.Store.Benchmarks

namespace PortfolioReports

open Calendar

variable {source : StatementPair → FetchCourse} {s : Store} {c : CallSetting} {id : Uuid} {new : NewBenchmark}

namespace Request

def offered? (c : CallSetting) : Request → Option (Uuid × NewBenchmark)
  | .createBenchmark new => some (c.fresh, new)
  | .updateBenchmark id new => some (id, new)
  | _ => none

structure Offers (request : Request) (c : CallSetting) (id : Uuid) (new : NewBenchmark) : Prop where
  offered : request.offered? c = some (id, new)
  now : c.now.Storable
  sizes : ∀ m ∈ new.metrics, m.sampleSize < 2 ^ 32

theorem Offers.settles (source : StatementPair → FetchCourse) {request : Request} (h : request.Offers c id new)
    (hids : s.UniqueBenchmarkIds) : (request.call c).Settles source s fun s' _ => s.Takes id new.metrics s' := by
  cases request with
  | createBenchmark new' =>
    obtain ⟨rfl, rfl⟩ : c.fresh = id ∧ new' = new := Prod.mk.inj (Option.some.inj h.offered)
    refine (Reporting.writes_createBenchmark new').mono fun s' _ hs' => ?_
    exact Store.takes_insertBenchmark hids h.now h.now h.sizes hs'
  | updateBenchmark id' new' =>
    obtain ⟨rfl, rfl⟩ : id' = id ∧ new' = new := Prod.mk.inj (Option.some.inj h.offered)
    refine (Reporting.writes_updateBenchmark id' new').mono fun s' _ ⟨old, hold, hs'⟩ => ?_
    exact hs' ▸ Store.takes_updateBenchmark (b := new'.benchmark id' old.createdAt c.now) hids hold h.now h.sizes
  | _ => cases h.offered

end Request

namespace Store

/-- The benchmarks that the calls offer, one call after another, and that are accepted. -/
def acceptedBenchmarks (source : StatementPair → FetchCourse) (s : Store) :
    List (Request × CallSetting) → List NewBenchmark
  | [] => []
  | (request, c) :: calls =>
    let ran := (request.call c).run source s
    match request.offered? c, ran.2 with
    | some (_, new), .ok _ => new :: ran.1.acceptedBenchmarks source calls
    | _, _ => ran.1.acceptedBenchmarks source calls

theorem benchmarksReadable_after_iff (source : StatementPair → FetchCourse) (hids : s.UniqueBenchmarkIds)
    {calls : List (Request × CallSetting)} (hcalls : ∀ call ∈ calls, ∃ id new, call.1.Offers call.2 id new) :
    (s.after source calls).UniqueBenchmarkIds ∧
      ((s.after source calls).BenchmarksReadable ↔
        s.BenchmarksReadable ∧ ∀ new ∈ s.acceptedBenchmarks source calls, ∀ m ∈ new.metrics, m.IsFinite) := by
  induction calls generalizing s with
  | nil => exact ⟨hids, by simp [Store.after, acceptedBenchmarks]⟩
  | cons call calls ih =>
    obtain ⟨request, c⟩ := call
    obtain ⟨⟨id, new, hnew⟩, hrest⟩ := List.forall_mem_cons.mp hcalls
    rw [Store.after, List.foldl_cons]
    rcases (hnew.settles source hids).run_cases with ⟨s', _, hran, htakes⟩ | ⟨cause, hran⟩
    · have haccepted : s.acceptedBenchmarks source ((request, c) :: calls) =
          new :: s'.acceptedBenchmarks source calls := by
        simp only [acceptedBenchmarks, hnew.offered, hran]
      obtain ⟨hunique, hreadable⟩ := ih htakes.unique hrest
      rw [hran, haccepted, List.forall_mem_cons, ← and_assoc, ← htakes.readable]
      exact ⟨hunique, hreadable⟩
    · have haccepted : s.acceptedBenchmarks source ((request, c) :: calls) = s.acceptedBenchmarks source calls := by
        simp only [acceptedBenchmarks, hnew.offered, hran]
      rw [hran, haccepted]
      exact ih hids hrest

/-- After a benchmark was accepted, whatever is asked of benchmarks is answered if and only if they could be read before
all the calls and none that was accepted has an infinite or undefined number. -/
theorem servesBenchmark_iff_accepted_finite (hids : s.UniqueBenchmarkIds) {calls : List (Request × CallSetting)}
    (hcalls : ∀ call ∈ calls, ∃ id new, call.1.Offers call.2 id new) {request : Request}
    (hnew : request.Offers c id new) {s' : Store} {answer : Answer}
    (hran : (request.call c).run source (s.after source calls) = (s', .ok answer)) :
    s'.ServesBenchmark id ↔ s.BenchmarksReadable ∧
      ∀ new ∈ s.acceptedBenchmarks source (calls ++ [(request, c)]), ∀ m ∈ new.metrics, m.IsFinite := by
  have hunique := (benchmarksReadable_after_iff source hids hcalls).1
  have htakes : (s.after source calls).Takes id new.metrics s' := by
    rcases (hnew.settles source hunique).run_cases with ⟨_, _, hran', htakes⟩ | ⟨cause, hran'⟩
    · cases hran.symm.trans hran'
      exact htakes
    · cases hran.symm.trans hran'
  have hafter : s.after source (calls ++ [(request, c)]) = s' := by
    rw [Store.after, List.foldl_append]
    exact congrArg Prod.fst hran
  rw [servesBenchmark_iff htakes.has, ← hafter]
  exact (benchmarksReadable_after_iff source hids
    (List.forall_mem_append.mpr ⟨hcalls, List.forall_mem_singleton.mpr ⟨id, new, hnew⟩⟩)).2

def issuedCredits (spread : Spread Float) : NewBenchmark :=
  ⟨"Credits", none, "forestry", none, none, 2024, none, none, true, [⟨"total_credits_issued", 20, "t", spread, 12⟩]⟩

theorem offers_issuedCredits {request : Request} {spread : Spread Float}
    (h : request.offered? atNoon = some (id, issuedCredits spread)) :
    request.Offers atNoon id (issuedCredits spread) where
  offered := h
  now := ⟨by decide, by decide, by decide, by decide⟩
  sizes := List.forall_mem_singleton.mpr (by decide : 12 < 2 ^ 32)

def risingThenFalling : List (Request × CallSetting) :=
  [(.createBenchmark (issuedCredits ⟨10, 20, 30, 40, 0, 50⟩), atNoon),
   (.updateBenchmark .nil (issuedCredits ⟨10, 20, 15, 40, 0, 50⟩), atNoon)]

def revised : Request := .updateBenchmark .nil (issuedCredits ⟨20, 20, 20, 20, -5, 20⟩)

theorem servesBenchmark_iff_accepted_finite_revised :
    empty.UniqueBenchmarkIds ∧ (∀ call ∈ risingThenFalling, ∃ id new, call.1.Offers call.2 id new) ∧
      (empty.acceptedBenchmarks answerNothing (risingThenFalling ++ [(revised, atNoon)])).length = 2 ∧
      ServesBenchmark ((revised.call atNoon).run answerNothing (empty.after answerNothing risingThenFalling)).1
        .nil := by
  have hids : empty.UniqueBenchmarkIds := List.nodup_nil
  have hcalls : ∀ call ∈ risingThenFalling, ∃ id new, call.1.Offers call.2 id new := by
    rw [risingThenFalling, List.forall_mem_cons, List.forall_mem_singleton]
    exact ⟨⟨_, _, offers_issuedCredits rfl⟩, _, _, offers_issuedCredits rfl⟩
  have hok : ((revised.call atNoon).run answerNothing (empty.after answerNothing risingThenFalling)).2.isOk = true := by
    decide +kernel
  obtain ⟨answer, hran⟩ := Call.exists_run_eq_of_isOk hok
  have hfinite : ∀ new ∈ empty.acceptedBenchmarks answerNothing (risingThenFalling ++ [(revised, atNoon)]),
      ∀ m ∈ new.metrics, m.IsFinite := by decide +kernel
  refine ⟨hids, hcalls, by decide +kernel, ?_⟩
  exact (servesBenchmark_iff_accepted_finite hids hcalls (offers_issuedCredits rfl) hran).mpr
    ⟨List.forall_mem_nil _, hfinite⟩

def medianless : NewBenchmark := issuedCredits ⟨10, 0 / 0, 30, 40, 0, 50⟩

def medianlessText : String :=
  "[\x7b\"metric\":\"total_credits_issued\",\"value\":20.0,\"unit\":\"t\",\"p25\":10.0,\"p50\":null," ++
  "\"p75\":30.0,\"p90\":40.0,\"min\":0.0,\"max\":50.0,\"sample_size\":12\x7d]"

theorem medianless_unreadable :
    let ran := ((Request.createBenchmark medianless).call atNoon).run answerNothing empty
    ran.2.isOk = true ∧ ran.1.benchmarks.map BenchmarkRow.metrics = [medianlessText] ∧
      (ran.1.getBenchmark .nil).isOk = false ∧ (ran.1.listBenchmarks .all).isOk = false ∧
      (ran.1.findBenchmark ⟨"forestry", none, none, none⟩).isOk = false := by
  decide +kernel

end Store

end PortfolioReports
