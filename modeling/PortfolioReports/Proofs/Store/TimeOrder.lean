import PortfolioReports.Proofs.Calendar.TextOrder
import PortfolioReports.Proofs.Store.BestBenchmark

namespace PortfolioReports

namespace Calendar

def IsStamp (text : String) : Prop := ∃ m : Moment, m.Storable ∧ text = utcText m

def NewestFirst (times : List Moment) : Prop := times.Pairwise fun a b => b.le a = true

def OldestFirst (times : List Moment) : Prop := times.Pairwise fun a b => a.le b = true

/-- No time among these is written like a later one with fewer digits. -/
def NoneShortened (times : List Moment) : Prop := ∀ a ∈ times, ∀ b ∈ times, ¬a.Shortens b

theorem Moment.Storable.le_of_utcText_le {a b : Moment} (ha : a.Storable) (hb : b.Storable)
    (h : utcText a ≤ utcText b) (hshort : ¬b.Shortens a) : a.le b = true := by
  by_contra hle
  exact not_lt.mpr h (hb.utcText_lt_of_not_le ha hle hshort)

variable {times : List Moment}

theorem newestFirst_iff (hstamps : ∀ m ∈ times, m.Storable)
    (htexts : times.Pairwise fun a b => utcText b ≤ utcText a) : NewestFirst times ↔ NoneShortened times := by
  constructor
  · intro hnewest a ha b hb
    -- of two times in both orders neither shortens the other, whichever stands first
    have hpairs : times.Pairwise fun a b => ¬a.Shortens b ∧ ¬b.Shortens a := by
      refine (hnewest.and htexts).imp_of_mem fun {a b} ha hb hab => ⟨fun hshort => ?_, fun hshort => ?_⟩
      · exact hshort.not_le hab.1
      · exact not_lt.mpr hab.2 ((hstamps b hb).utcText_lt_of_shortens (hstamps a ha) hshort)
    have hsymm : Std.Symm fun a b : Moment => ¬a.Shortens b ∧ ¬b.Shortens a := ⟨fun _ _ => And.symm⟩
    exact (hpairs.forall_of_forall (fun m _ => ⟨Moment.Shortens.irrefl, Moment.Shortens.irrefl⟩) ha hb).1
  · intro hnone
    exact htexts.imp_of_mem fun {a b} ha hb hab => (hstamps b hb).le_of_utcText_le (hstamps a ha) hab (hnone a ha b hb)

theorem oldestFirst_iff (hstamps : ∀ m ∈ times, m.Storable)
    (htexts : times.Pairwise fun a b => utcText a ≤ utcText b) : OldestFirst times ↔ NoneShortened times := by
  have hreverse : NewestFirst times.reverse ↔ NoneShortened times.reverse :=
    newestFirst_iff (fun m hm => hstamps m (List.mem_reverse.mp hm)) (List.pairwise_reverse.mpr htexts)
  rw [NewestFirst, List.pairwise_reverse] at hreverse
  simpa only [OldestFirst, NoneShortened, List.mem_reverse] using hreverse

end Calendar

open Calendar Stored

theorem Stored.of_readTime {column : Nat} {text : String} {m : Moment} (hread : readTime column text = .ok m)
    (h : IsStamp text) : m.Storable ∧ text = utcText m := by
  obtain ⟨m', hm', rfl⟩ := h
  rw [readTime_utcText column hm'] at hread
  cases hread
  exact ⟨hm', rfl⟩

theorem ReportRow.updatedAt_of_toReport {r : ReportRow} {x : Report} (h : r.toReport = .ok x) :
    readTime 11 r.updatedAt = .ok x.updatedAt := by
  simp only [toReport, bind_eq_ok_iff] at h
  obtain ⟨_, -, _, -, _, -, _, -, _, -, _, -, _, -, _, htime, _, -, h⟩ := h
  cases h
  exact htime

theorem ExecutionRow.triggeredAt_of_toExecution {r : ExecutionRow} {x : Execution} (h : r.toExecution = .ok x) :
    readTime 9 r.triggeredAt = .ok x.triggeredAt := by
  simp only [toExecution, bind_eq_ok_iff] at h
  obtain ⟨_, -, _, -, _, -, _, -, _, -, _, htime, _, -, h⟩ := h
  cases h
  exact htime

theorem ScheduleRow.createdAt_of_toSchedule {r : ScheduleRow} {x : Schedule} (h : r.toSchedule = .ok x) :
    readTime 11 r.createdAt = .ok x.createdAt := by
  simp only [toSchedule, bind_eq_ok_iff] at h
  obtain ⟨_, -, _, -, _, -, _, -, _, -, _, -, _, htime, _, -, h⟩ := h
  cases h
  exact htime

section Rows

variable {ρ α : Type} {read : ρ → Except StoreFault α} {text : ρ → String} {time : α → Moment} {column : Nat}
  {rows : List ρ} {items : List α}

theorem map_utcText_of_mapM (hread : ∀ {r x}, read r = .ok x → readTime column (text r) = .ok (time x))
    (hstamps : ∀ r ∈ rows, IsStamp (text r)) (h : rows.mapM read = .ok items) :
    (∀ m ∈ items.map time, m.Storable) ∧ (items.map time).map utcText = rows.map text := by
  have hpairs := mapM_eq_ok_iff.mp h
  clear h
  induction hpairs with
  | nil => exact ⟨nofun, rfl⟩
  | cons hfirst _ ih =>
    rw [List.forall_mem_cons] at hstamps
    obtain ⟨hstorable, htext⟩ := of_readTime (hread hfirst) hstamps.1
    obtain ⟨hstorables, htexts⟩ := ih hstamps.2
    refine ⟨List.forall_mem_cons.mpr ⟨hstorable, hstorables⟩, ?_⟩
    rw [List.map_cons, List.map_cons, List.map_cons, htexts, htext]

theorem pairwise_utcText (before : String → String → Prop) (htexts : (items.map time).map utcText = rows.map text)
    (hrows : rows.Pairwise fun a b => before (text a) (text b)) :
    (items.map time).Pairwise fun a b => before (utcText a) (utcText b) := by
  rw [← List.pairwise_map (f := text), ← htexts, List.pairwise_map] at hrows
  exact hrows

theorem newestFirst_items_iff (hread : ∀ {r x}, read r = .ok x → readTime column (text r) = .ok (time x))
    (hstamps : ∀ r ∈ rows, IsStamp (text r)) (hrows : rows.Pairwise fun a b => text b ≤ text a)
    (h : rows.mapM read = .ok items) : NewestFirst (items.map time) ↔ NoneShortened (items.map time) := by
  obtain ⟨hstorable, htexts⟩ := map_utcText_of_mapM hread hstamps h
  exact newestFirst_iff hstorable (pairwise_utcText (fun a b => b ≤ a) htexts hrows)

theorem oldestFirst_items_iff (hread : ∀ {r x}, read r = .ok x → readTime column (text r) = .ok (time x))
    (hstamps : ∀ r ∈ rows, IsStamp (text r)) (hrows : rows.Pairwise fun a b => text a ≤ text b)
    (h : rows.mapM read = .ok items) : OldestFirst (items.map time) ↔ NoneShortened (items.map time) := by
  obtain ⟨hstorable, htexts⟩ := map_utcText_of_mapM hread hstamps h
  exact oldestFirst_iff hstorable (pairwise_utcText (fun a b => a ≤ b) htexts hrows)

end Rows

namespace Store

variable {s : Store}

structure HasStamps (s : Store) : Prop where
  reports : ∀ r ∈ s.reports, IsStamp r.updatedAt
  executions : ∀ r ∈ s.executions, IsStamp r.triggeredAt
  schedules : ∀ r ∈ s.schedules, IsStamp r.createdAt
  benchmarks : ∀ r ∈ s.benchmarks, IsStamp r.updatedAt

theorem items_of_listReports {f : ReportFilter} {items : List Report} {total : Nat}
    (h : s.listReports f = .ok (items, total)) :
    ∃ start, (((s.matchingReports f).drop start).take f.size.toNat).mapM ReportRow.toReport = .ok items := by
  unfold listReports at h
  split at h
  · cases h
  · obtain ⟨start, -, h⟩ := bind_eq_ok_iff.mp h
    obtain ⟨items', hitems, heq⟩ := bind_eq_ok_iff.mp h
    cases heq
    exact ⟨start, hitems⟩

theorem HasStamps.listReports (h : s.HasStamps) {f : ReportFilter} {items : List Report} {total : Nat}
    (hlist : s.listReports f = .ok (items, total)) :
    NewestFirst (items.map Report.updatedAt) ↔ NoneShortened (items.map Report.updatedAt) := by
  obtain ⟨start, hitems⟩ := items_of_listReports hlist
  have hsub : (((s.matchingReports f).drop start).take f.size.toNat).Sublist (s.matchingReports f) :=
    (List.take_sublist _ _).trans (List.drop_sublist _ _)
  refine newestFirst_items_iff ReportRow.updatedAt_of_toReport (fun r hr => ?_) ?_ hitems
  · exact h.reports r (mem_matchingReports.mp (hsub.subset hr)).1
  · exact ((s.pairwise_matchingReports f).imp fun {a b} hab => Prod.Lex.monotone_fst _ _ hab).sublist hsub

theorem HasStamps.listExecutions (h : s.HasStamps) {f : ExecutionFilter} {items : List Execution}
    (hlist : s.listExecutions f = .ok items) :
    NewestFirst (items.map Execution.triggeredAt) ↔ NoneShortened (items.map Execution.triggeredAt) := by
  have hsorted := pairwise_mergeSort_place ExecutionRow.listedBefore_iff (s.executions.filter (ExecutionRow.passes f))
  refine newestFirst_items_iff ExecutionRow.triggeredAt_of_toExecution (fun r hr => ?_) ?_ hlist
  · exact h.executions r (List.mem_of_mem_filter (List.mem_mergeSort.mp (List.mem_of_mem_take hr)))
  · exact (hsorted.imp fun {a b} hab => Prod.Lex.monotone_fst _ _ hab).sublist (List.take_sublist f.bound _)

theorem HasStamps.listSchedules (h : s.HasStamps) {report? : Option Uuid} {items : List Schedule}
    (hlist : s.listSchedules report? = .ok items) :
    OldestFirst (items.map Schedule.createdAt) ↔ NoneShortened (items.map Schedule.createdAt) := by
  have hsorted := pairwise_mergeSort_place ScheduleRow.listedBefore_iff
    (s.schedules.filter fun r => report?.all fun u => r.report == u.toText)
  refine oldestFirst_items_iff ScheduleRow.createdAt_of_toSchedule (fun r hr => ?_) ?_ hlist
  · exact h.schedules r (List.mem_of_mem_filter (List.mem_mergeSort.mp hr))
  · exact hsorted.imp fun {a b} hab => Prod.Lex.monotone_fst _ _ hab

def rivalTimes (s : Store) (q : BenchmarkQuery) (year : Int32) : List Moment :=
  (s.benchmarks.filter fun r => r.passes q.filter && r.year == year).filterMap fun r => (readStamp r.updatedAt).toOption

structure FoundInLatestYear (s : Store) (q : BenchmarkQuery) (b : Benchmark) : Prop where
  there : ∃ r ∈ s.benchmarks, r.passes q.filter = true ∧ r.toBenchmark = .ok b
  latest : ∀ r ∈ s.benchmarks, r.passes q.filter = true → r.year ≤ b.year

theorem not_passes_of_findBenchmark {q : BenchmarkQuery} (h : s.findBenchmark q = .ok none) :
    ∀ r ∈ s.benchmarks, ¬r.passes q.filter = true := chosen?_eq_none_iff.mp (findBenchmark_eq_none_iff.mp h)

theorem of_findBenchmark {q : BenchmarkQuery} {b : Benchmark} (h : s.findBenchmark q = .ok (some b)) :
    ∃ r ∈ s.benchmarks, r.passes q.filter = true ∧ r.toBenchmark = .ok b ∧
      ∀ c ∈ s.benchmarks, c.passes q.filter = true → r.place ≤ c.place := by
  obtain ⟨r, hchosen, hread⟩ := chosen_of_findBenchmark h
  obtain ⟨hr, hpasses, hplace⟩ := of_chosen? hchosen
  exact ⟨r, hr, hpasses, hread, hplace⟩

theorem HasStamps.of_mem_rivalTimes (h : s.HasStamps) {q : BenchmarkQuery} {r : BenchmarkRow} {m : Moment}
    (hplace : ∀ c ∈ s.benchmarks, c.passes q.filter = true → r.place ≤ c.place) (hm : m ∈ s.rivalTimes q r.year) :
    m.Storable ∧ utcText m ≤ r.updatedAt := by
  obtain ⟨c, hmem, hread⟩ := List.mem_filterMap.mp hm
  simp only [List.mem_filter, Bool.and_eq_true, beq_iff_eq] at hmem
  obtain ⟨hc, hpasses, hyear⟩ := hmem
  obtain ⟨m', hm', htext⟩ := h.benchmarks c hc
  rw [htext, hm'.readStamp_utcText] at hread
  obtain rfl : m' = m := Option.some.inj hread
  have hlater := Prod.Lex.toLex_le_toLex.mp (hplace c hc hpasses)
  rw [hyear] at hlater
  rw [← htext]
  exact ⟨hm', (hlater.resolve_left (lt_irrefl _)).2⟩

theorem HasStamps.findBenchmark (h : s.HasStamps) {q : BenchmarkQuery} {b : Benchmark}
    (hfound : s.findBenchmark q = .ok (some b)) : s.FoundInLatestYear q b ∧
      ((∀ m ∈ s.rivalTimes q b.year, m.le b.updatedAt = true) ↔
        ∀ m ∈ s.rivalTimes q b.year, ¬b.updatedAt.Shortens m) := by
  obtain ⟨r, hr, hpasses, hread, hplace⟩ := of_findBenchmark hfound
  obtain ⟨hyear, htime⟩ := BenchmarkRow.of_toBenchmark hread
  obtain ⟨hstorable, htext⟩ := of_readTime htime (h.benchmarks r hr)
  rw [hyear]
  refine ⟨⟨⟨r, hr, hpasses, hread⟩, fun c hc hcpasses => ?_⟩, ?_⟩
  · rw [hyear]
    exact year_le_of_place_le (hplace c hc hcpasses)
  · constructor
    · exact fun hle m hm hshort => hshort.not_le (hle m hm)
    · intro hnone m hm
      obtain ⟨hm', hlater⟩ := h.of_mem_rivalTimes hplace hm
      rw [htext] at hlater
      exact hm'.le_of_utcText_le hstorable hlater (hnone m hm)

/-- Each listing is in the order of time just when no time of it is written like a later one with fewer digits. -/
structure InOrderIffNoneShortened (s : Store) : Prop where
  reports : ∀ (f : ReportFilter) (items : List Report) (total : Nat), s.listReports f = .ok (items, total) →
    (NewestFirst (items.map Report.updatedAt) ↔ NoneShortened (items.map Report.updatedAt))
  executions : ∀ (f : ExecutionFilter) (items : List Execution), s.listExecutions f = .ok items →
    (NewestFirst (items.map Execution.triggeredAt) ↔ NoneShortened (items.map Execution.triggeredAt))
  schedules : ∀ (report? : Option Uuid) (items : List Schedule), s.listSchedules report? = .ok items →
    (OldestFirst (items.map Schedule.createdAt) ↔ NoneShortened (items.map Schedule.createdAt))
  benchmarks : ∀ (q : BenchmarkQuery) (b : Benchmark), s.findBenchmark q = .ok (some b) → s.FoundInLatestYear q b ∧
    ((∀ m ∈ s.rivalTimes q b.year, m.le b.updatedAt = true) ↔ ∀ m ∈ s.rivalTimes q b.year, ¬b.updatedAt.Shortens m)
  noBenchmark : ∀ q : BenchmarkQuery, s.findBenchmark q = .ok none → ∀ r ∈ s.benchmarks, ¬r.passes q.filter = true

theorem inOrder_iff_noneShortened (h : s.HasStamps) : s.InOrderIffNoneShortened where
  reports _ _ _ := h.listReports
  executions _ _ := h.listExecutions
  schedules _ _ := h.listSchedules
  benchmarks _ _ := h.findBenchmark
  noBenchmark _ := not_passes_of_findBenchmark

def atTen (nanos : Nat) : Moment := ⟨⟨19783⟩, ⟨36000, nanos⟩⟩

def onTheSecond : Report where
  id := .nil
  name := "Totals"
  description? := none
  category := .custom
  query := .empty
  createdBy? := none
  visibility := .everyone
  version := 1
  isTemplate := false
  basedOn? := none
  createdAt := atTen 0
  updatedAt := atTen 0
  deletedAt? := none

def halfASecondLater : Report := { onTheSecond with id := ones, updatedAt := atTen 500000000 }

def twoTotals : Store := ⟨[onTheSecond, halfASecondLater].map .ofReport, [], [], [], [], []⟩

theorem atTen_storable {nanos : Nat} (h : nanos < 1000000000) : (atTen nanos).Storable where
  year := show 0 ≤ (atTen 0).date.year ∧ (atTen 0).date.year ≤ 9999 by decide
  seconds := show 36000 < 86400 by decide
  nanos := h.trans (by decide)
  leap hleap := absurd hleap (Nat.not_le.mpr h)

theorem onTheSecond_storable : onTheSecond.Storable where
  createdAt := atTen_storable (by decide)
  updatedAt := atTen_storable (by decide)
  deletedAt := nofun
  operands := nofun
  depth := by decide

theorem halfASecondLater_storable : halfASecondLater.Storable where
  createdAt := atTen_storable (by decide)
  updatedAt := atTen_storable (by decide)
  deletedAt := nofun
  operands := nofun
  depth := by decide

theorem twoTotals_storable : ∀ x ∈ [onTheSecond, halfASecondLater], x.Storable :=
  List.forall_mem_cons.mpr ⟨onTheSecond_storable, List.forall_mem_singleton.mpr halfASecondLater_storable⟩

theorem hasStamps_twoTotals : twoTotals.HasStamps where
  reports := List.forall_mem_map.mpr fun x hx => ⟨x.updatedAt, (twoTotals_storable x hx).updatedAt, rfl⟩
  executions := List.forall_mem_nil _
  schedules := List.forall_mem_nil _
  benchmarks := List.forall_mem_nil _

theorem inOrder_iff_noneShortened_twoTotals : twoTotals.HasStamps ∧ twoTotals.InOrderIffNoneShortened :=
  ⟨hasStamps_twoTotals, inOrder_iff_noneShortened hasStamps_twoTotals⟩

theorem halfASecondLater_listedLast : twoTotals.HasStamps ∧
    twoTotals.listReports .all = .ok ([onTheSecond, halfASecondLater], 2) ∧
    ¬NewestFirst ([onTheSecond, halfASecondLater].map Report.updatedAt) := by
  have hshort : (atTen 0).Shortens (atTen 500000000) := ⟨rfl, rfl, by decide, by decide⟩
  have hlater : (ReportRow.ofReport halfASecondLater).updatedAt < (ReportRow.ofReport onTheSecond).updatedAt :=
    onTheSecond_storable.updatedAt.utcText_lt_of_shortens halfASecondLater_storable.updatedAt hshort
  have hbefore : (ReportRow.ofReport onTheSecond).listedBefore (.ofReport halfASecondLater) = true := by
    rw [ReportRow.listedBefore, decide_eq_true hlater, Bool.true_or]
  have hrows : twoTotals.matchingReports .all = [.ofReport onTheSecond, .ofReport halfASecondLater] := by
    have hall : twoTotals.reports.filter (ReportRow.passes .all) = twoTotals.reports := by rfl
    rw [matchingReports, hall]
    exact List.mergeSort_of_pairwise (List.pairwise_pair.mpr hbefore)
  have hitems : [ReportRow.ofReport onTheSecond, .ofReport halfASecondLater].mapM ReportRow.toReport =
      .ok [onTheSecond, halfASecondLater] := by
    refine mapM_eq_ok_iff.mpr (.cons ?_ (.cons ?_ .nil))
    · exact ReportRow.toReport_ofReport onTheSecond_storable
    · exact ReportRow.toReport_ofReport halfASecondLater_storable
  refine ⟨hasStamps_twoTotals, ?_, fun hnewest => ?_⟩
  · have hsearch : ReportFilter.all.search?.any Text.isTooLong = false := by rfl
    rw [listReports, hrows, hsearch]
    simp only [Bool.false_and, Bool.false_eq_true, if_false]
    exact bind_eq_ok_iff.mpr ⟨0, by rfl, bind_eq_ok_iff.mpr ⟨_, hitems, rfl⟩⟩
  · exact hshort.not_le (List.rel_of_pairwise_cons hnewest (List.mem_singleton_self _))

end Store

end PortfolioReports
