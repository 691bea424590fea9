import PortfolioReports.Proofs.Query.Stored
import PortfolioReports.Proofs.Records.Benchmark
import PortfolioReports.Proofs.Store.Executions
import PortfolioReports.Store.Benchmarks
import PortfolioReports.Store.Reports
import PortfolioReports.Store.Schedules
import PortfolioReports.Store.Widgets

namespace PortfolioReports

open Calendar Json Stored

structure Report.Storable (r : Report) : Prop where
  createdAt : r.createdAt.Storable
  updatedAt : r.updatedAt.Storable
  deletedAt : ∀ m, r.deletedAt? = some m → m.Storable
  operands : ∀ c ∈ r.query.conditions, c.operand.IsPlain
  depth : r.query.toJson.depth ≤ depthLimit

structure Schedule.Storable (x : Schedule) : Prop where
  createdAt : x.createdAt.Storable
  updatedAt : x.updatedAt.Storable

structure Benchmark.Storable (b : Benchmark) : Prop where
  createdAt : b.createdAt.Storable
  updatedAt : b.updatedAt.Storable
  confidence : ∀ x, b.confidence? = some x → x.isFinite = true
  metrics : ∀ m ∈ b.metrics, m.Storable

structure Widget.Storable (w : Widget) : Prop where
  createdAt : w.createdAt.Storable
  updatedAt : w.updatedAt.Storable
  config : w.config.IsDocument
  depth : w.config.depth ≤ depthLimit

theorem ReportRow.toReport_ofReport {r : Report} (h : r.Storable) : (ofReport r).toReport = .ok r := by
  have hquery : r.query.IsStorable :=
    ReportQuery.isStorable_of_depth_toJson_le (fun c hc => (h.operands c hc).isUndated) h.depth
  have hread := hquery.readJson_print 4
  rw [ReportQuery.reread_eq_self h.operands] at hread
  simp [toReport, ofReport, hread, readTime_utcText _ h.createdAt, readTime_utcText _ h.updatedAt,
    readOptional_time _ h.deletedAt, bind, Except.bind, pure, Except.pure]

theorem ScheduleRow.toSchedule_ofSchedule {x : Schedule} (h : x.Storable) : (ofSchedule x).toSchedule = .ok x := by
  have hdepth : (texts x.recipients).depth ≤ depthLimit := depth_list_map_le (n := 126) fun s _ => depth_text_le s
  have hread : readJson (.list .text) (asList? asText?) 8 (texts x.recipients).print = .ok x.recipients :=
    readJson_print 8 hdepth (asList?_reread_self (fun _ => rfl) x.recipients)
  simp [toSchedule, ofSchedule, hread, readTime_utcText _ h.createdAt, readTime_utcText _ h.updatedAt, bind,
    Except.bind, pure, Except.pure]

theorem BenchmarkRow.toBenchmark_ofBenchmark {b : Benchmark} (h : b.Storable) :
    (ofBenchmark b).toBenchmark = .ok { b with confidence? := b.confidence?.bind real } := by
  have hdepth : (list (b.metrics.map BenchmarkMetric.toJson)).depth ≤ depthLimit :=
    depth_list_map_le (n := 126) fun m _ => m.depth_toJson_le
  have hread : readJson (.list BenchmarkMetric.shape) (asList? BenchmarkMetric.ofJson?) 10
      (list (b.metrics.map BenchmarkMetric.toJson)).print = .ok b.metrics := by
    refine readJson_print 10 hdepth ?_
    rw [asList?_reread fun m hm => BenchmarkMetric.ofJson?_toJson (h.metrics m hm), List.map_id']
  simp [toBenchmark, ofBenchmark, hread, readTime_utcText _ h.createdAt, readTime_utcText _ h.updatedAt, bind,
    Except.bind, pure, Except.pure]

theorem WidgetRow.toWidget_ofWidget {w : Widget} (h : w.Storable) : (ofWidget w).toWidget = .ok w := by
  have hread : readJson .document document? 5 w.config.print = .ok w.config :=
    readJson_print 5 h.depth h.config.document?_reread
  simp [toWidget, ofWidget, hread, readTime_utcText _ h.createdAt, readTime_utcText _ h.updatedAt, bind,
    Except.bind, pure, Except.pure]

namespace Store

theorem readFirst_append {ρ α : Type} {holds : ρ → Bool} {read : ρ → Except StoreFault α} {rows : List ρ} {row : ρ}
    {a : α} (habsent : rows.any holds = false) (hholds : holds row = true) (hread : read row = .ok a) :
    readFirst holds read (rows ++ [row]) = .ok (some a) := by
  have hnone : rows.find? holds = none := by
    rw [List.find?_eq_none]
    intro r hr
    rw [List.any_eq_false] at habsent
    exact habsent r hr
  rw [readFirst, List.find?_append, hnone, Option.none_or, List.find?_singleton, hholds, if_pos rfl]
  simp only [hread]
  rfl

variable {s : Store}

theorem insertReport_readBack {r : Report} (h : r.Storable) (hlive : r.deletedAt? = none)
    (hnew : s.hasReport r.id.toText = false) :
    ∃ s', s.insertReport r = .ok s' ∧ s' = { s with reports := s.reports ++ [.ofReport r] } ∧
      s'.getReport r.id = .ok (some r) := by
  refine ⟨_, by rw [insertReport, hnew]; rfl, rfl, readFirst_append ?_ ?_ (ReportRow.toReport_ofReport h)⟩
  · rw [List.any_eq_false]
    intro row hrow hlive
    rw [hasReport, List.any_eq_false] at hnew
    exact hnew row hrow (Bool.and_eq_true_iff.mp hlive).2
  · simp [ReportRow.isLiveWith, ReportRow.isLive, ReportRow.ofReport, hlive]

theorem insertExecution_readBack {e : Execution} (h : e.Storable) (hnew : s.hasExecution e.id = false)
    (hparent : ∀ u, e.report? = some u → s.hasReport u.toText = true) :
    ∃ s', s.insertExecution e = .ok s' ∧ s' = { s with executions := s.executions ++ [.ofExecution e] } ∧
      s'.getExecution e.id = .ok (some e) := by
  have hnone : s.executionsOf e.id = [] := by
    by_contra hrows
    rw [(s.hasExecution_iff e.id).mpr hrows] at hnew
    cases hnew
  refine ⟨_, insertExecution_of_fresh hnone hparent, rfl, ?_⟩
  exact readFirst_append hnew (beq_self_eq_true e.id.toText) (ExecutionRow.toExecution_ofExecution h)

theorem insertSchedule_readBack {x : Schedule} (h : x.Storable) (hnew : s.hasSchedule x.id = false)
    (hparent : s.hasReport x.report.toText = true) :
    ∃ s', s.insertSchedule x = .ok s' ∧ s' = { s with schedules := s.schedules ++ [.ofSchedule x] } ∧
      s'.getSchedule x.id = .ok (some x) := by
  refine ⟨_, by rw [insertSchedule, hnew, hparent]; rfl, rfl, ?_⟩
  exact readFirst_append hnew (beq_self_eq_true x.id.toText) (ScheduleRow.toSchedule_ofSchedule h)

theorem insertBenchmark_readBack {b : Benchmark} (h : b.Storable) (hnew : s.hasBenchmark b.id = false) :
    ∃ s', s.insertBenchmark b = .ok s' ∧ s' = { s with benchmarks := s.benchmarks ++ [.ofBenchmark b] } ∧
      ∃ c?, s'.getBenchmark b.id = .ok (some { b with confidence? := c? }) ∧
        Option.Rel (fun x y => (x == y) = true) b.confidence? c? := by
  refine ⟨_, by rw [insertBenchmark, hnew]; rfl, rfl, b.confidence?.bind real, ?_, ?_⟩
  · exact readFirst_append hnew (beq_self_eq_true b.id.toText) (BenchmarkRow.toBenchmark_ofBenchmark h)
  · cases hconfidence : b.confidence? with
    | none => exact .none
    | some x =>
      obtain ⟨y, hy, heq⟩ := real_of_isFinite (h.confidence x hconfidence)
      rw [Option.bind_some, hy]
      exact .some heq

theorem putWidget_readBack {w : Widget} (h : w.Storable) (hnew : s.hasWidget w.id = false) :
    s.putWidget w = { s with widgets := s.widgets ++ [.ofWidget w] } ∧
      (s.putWidget w).getWidget w.id = .ok (some w) := by
  have hput : s.putWidget w = { s with widgets := s.widgets ++ [.ofWidget w] } := by
    rw [putWidget, hnew]
    rfl
  refine ⟨hput, ?_⟩
  rw [hput]
  exact readFirst_append hnew (beq_self_eq_true w.id.toText) (WidgetRow.toWidget_ofWidget h)

/-- The confidence of a benchmark comes back as an equal number: a zero loses its sign. -/
theorem stored_readBack (s : Store) :
    (∀ r : Report, r.Storable → r.deletedAt? = none → s.hasReport r.id.toText = false →
      ∃ s', s.insertReport r = .ok s' ∧ s' = { s with reports := s.reports ++ [.ofReport r] } ∧
        s'.getReport r.id = .ok (some r)) ∧
    (∀ e : Execution, e.Storable → s.hasExecution e.id = false →
      (∀ u, e.report? = some u → s.hasReport u.toText = true) →
      ∃ s', s.insertExecution e = .ok s' ∧ s' = { s with executions := s.executions ++ [.ofExecution e] } ∧
        s'.getExecution e.id = .ok (some e)) ∧
    (∀ x : Schedule, x.Storable → s.hasSchedule x.id = false → s.hasReport x.report.toText = true →
      ∃ s', s.insertSchedule x = .ok s' ∧ s' = { s with schedules := s.schedules ++ [.ofSchedule x] } ∧
        s'.getSchedule x.id = .ok (some x)) ∧
    (∀ b : Benchmark, b.Storable → s.hasBenchmark b.id = false →
      ∃ s', s.insertBenchmark b = .ok s' ∧ s' = { s with benchmarks := s.benchmarks ++ [.ofBenchmark b] } ∧
        ∃ c?, s'.getBenchmark b.id = .ok (some { b with confidence? := c? }) ∧
          Option.Rel (fun x y => (x == y) = true) b.confidence? c?) ∧
    (∀ w : Widget, w.Storable → s.hasWidget w.id = false →
      s.putWidget w = { s with widgets := s.widgets ++ [.ofWidget w] } ∧
        (s.putWidget w).getWidget w.id = .ok (some w)) :=
  ⟨fun _ => insertReport_readBack, fun _ => insertExecution_readBack, fun _ => insertSchedule_readBack,
    fun _ => insertBenchmark_readBack, fun _ => putWidget_readBack⟩

def lastSecond : Moment := ⟨⟨2932896⟩, ⟨86399, 1999999999⟩⟩

def firstMoment : Moment := ⟨⟨-719528⟩, ⟨0, 0⟩⟩

theorem lastSecond_storable : lastSecond.Storable := ⟨by decide, by decide, by decide, by decide⟩

theorem firstMoment_storable : firstMoment.Storable := ⟨by decide, by decide, by decide, by decide⟩

def ones : Uuid := ⟨Vector.replicate 32 ⟨1, by decide⟩⟩

def unnamed : Report where
  id := .nil
  name := ""
  description? := some "\n"
  category := .custom
  query := ⟨"projects", [], [⟨"status", .unknown, .list [.text "\"", .float 0.5, .list [.int (-3), .null]], some .or⟩],
    [], [], [], -1⟩
  createdBy? := some ones
  visibility := .everyone
  version := 1
  isTemplate := true
  basedOn? := some ones
  createdAt := firstMoment
  updatedAt := lastSecond
  deletedAt? := none

theorem readsFloat_half : ReadsFloat 0.5 := readsFloat_iff.mpr ⟨by decide +kernel, by decide +kernel⟩

theorem unnamed_storable : unnamed.Storable where
  createdAt := firstMoment_storable
  updatedAt := lastSecond_storable
  deletedAt := nofun
  operands := List.forall_mem_singleton.mpr <| .list <| List.forall_mem_cons.mpr ⟨.text _, List.forall_mem_cons.mpr
    ⟨.float readsFloat_half, List.forall_mem_singleton.mpr <| .list <| List.forall_mem_cons.mpr
      ⟨.int _, List.forall_mem_singleton.mpr .null⟩⟩⟩
  depth := by decide

def unnamedRun : Execution :=
  ⟨ones, some unnamed.id, none, .failed, .json, some 0, none, none, some "error", firstMoment, some lastSecond⟩

def unnamedPlan : Schedule :=
  ⟨ones, unnamed.id, "", "* * * * *", "UTC", false, .pdf, .s3, ["a@b", ""], none, some ones, firstMoment, lastSecond⟩

def halfway : Benchmark :=
  ⟨ones, "", none, "co2", some "m", none, -1, none, some (-0.0), true,
    [⟨"co2", 0.5, "t", ⟨0.5, 0.5, 0.5, 0.5, 0.5, 0.5⟩, 4294967295⟩], firstMoment, lastSecond⟩

def drawing : Widget :=
  ⟨ones, none, "", .gauge, "", .object [("a", .list [.float 0.5, .int 18446744073709551615]), ("b", .object [])], .full,
    -1, 0, false, firstMoment, lastSecond⟩

theorem halfway_storable : halfway.Storable where
  createdAt := firstMoment_storable
  updatedAt := lastSecond_storable
  confidence := by
    rintro x hx
    cases hx
    decide +kernel
  metrics := List.forall_mem_singleton.mpr ⟨readsFloat_half, by simp [Spread.anchors, readsFloat_half], by decide⟩

theorem drawing_storable : drawing.Storable where
  createdAt := firstMoment_storable
  updatedAt := lastSecond_storable
  config := .object (by decide) <| List.forall_mem_cons.mpr
    ⟨.list <| List.forall_mem_cons.mpr
      ⟨.float readsFloat_half, List.forall_mem_singleton.mpr <| .int (by decide) (by decide)⟩,
      List.forall_mem_singleton.mpr <| .object .nil <| List.forall_mem_nil _⟩
  depth := by decide

def unnamedOnly : Store := ⟨[.ofReport unnamed], [], [], [], [], []⟩

theorem stored_readBack_unnamed :
    (∃ s', empty.insertReport unnamed = .ok s' ∧ s'.getReport unnamed.id = .ok (some unnamed)) ∧
    (∃ s', unnamedOnly.insertExecution unnamedRun = .ok s' ∧ s'.getExecution ones = .ok (some unnamedRun)) ∧
    (∃ s', unnamedOnly.insertSchedule unnamedPlan = .ok s' ∧ s'.getSchedule ones = .ok (some unnamedPlan)) ∧
    (∃ s', empty.insertBenchmark halfway = .ok s' ∧
      ∃ c?, s'.getBenchmark ones = .ok (some { halfway with confidence? := c? }) ∧
        Option.Rel (fun x y => (x == y) = true) (some (-0.0)) c?) ∧
    (empty.putWidget drawing).getWidget ones = .ok (some drawing) := by
  obtain ⟨hreport, -, -, hbenchmark, hwidget⟩ := stored_readBack empty
  obtain ⟨-, hexecution, hschedule, -, -⟩ := stored_readBack unnamedOnly
  obtain ⟨s₁, hs₁, -, hread₁⟩ := hreport unnamed unnamed_storable rfl rfl
  have hrun : unnamedRun.Storable :=
    ⟨firstMoment_storable, fun m hm => by cases hm; exact lastSecond_storable⟩
  obtain ⟨s₂, hs₂, -, hread₂⟩ := hexecution unnamedRun hrun rfl fun u hu => by cases hu; decide
  obtain ⟨s₃, hs₃, -, hread₃⟩ :=
    hschedule unnamedPlan ⟨firstMoment_storable, lastSecond_storable⟩ rfl (by decide)
  obtain ⟨s₄, hs₄, -, hread₄⟩ := hbenchmark halfway halfway_storable rfl
  exact ⟨⟨s₁, hs₁, hread₁⟩, ⟨s₂, hs₂, hread₂⟩, ⟨s₃, hs₃, hread₃⟩, ⟨s₄, hs₄, hread₄⟩,
    (hwidget drawing drawing_storable rfl).2⟩

end Store

end PortfolioReports
