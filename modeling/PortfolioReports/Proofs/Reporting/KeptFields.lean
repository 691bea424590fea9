import PortfolioReports.Proofs.Reporting.RowEffects

namespace PortfolioReports

open Calendar

namespace ReportRow

theorem isStorable_of_readQuery {row : ReportRow} {q : ReportQuery} (h : row.readQuery = .ok q) : q.IsStorable := by
  simp only [readQuery, Stored.readJson] at h
  split at h
  · rename_i q' hread
    cases h
    obtain ⟨j, -, hj⟩ := Option.bind_eq_some_iff.mp hread
    exact ReportQuery.isStorable_of_ofJson? (j.depth_limited _) hj
  · cases h

theorem readQuery_rewritten {row row' : ReportRow} {q : ReportQuery} (h : row.readQuery = .ok q)
    (hquery : row'.query = q.toJson.print) : row'.readQuery = .ok q.reread := by
  rw [readQuery, hquery]
  exact (isStorable_of_readQuery h).readJson_print 4

end ReportRow

theorem toInt_add_one_iff {v : Int64} : (v + 1).toInt = v.toInt + 1 ↔ v ≠ Int64.maxValue := by
  have hle := v.le_toInt
  have hlt := v.toInt_lt
  have hmax : v = Int64.maxValue ↔ v.toInt = 2 ^ 63 - 1 := Int64.toInt_inj.symm
  rw [Ne, hmax, Int64.toInt_add, Int64.toInt_one]
  constructor
  · intro hsucc hlast
    rw [hlast] at hsucc
    revert hsucc
    decide
  · intro hlast
    exact Int.bmod_eq_of_le (by omega) (by omega)

namespace ReportUpdate

variable {u : ReportUpdate} {now : Moment} {row row' : ReportRow}

structure KeepsOthers (u : ReportUpdate) (now : Moment) (row row' : ReportRow) : Prop
    extends u.Revises now row row' where
  successor : row'.version.toInt = row.version.toInt + 1
  kept : u.query? = none → row'.readQuery = row.readQuery

/-- The version can be raised, and the query, if it is to be kept, is read from what is written of it. -/
structure Steady (u : ReportUpdate) (row : ReportRow) : Prop where
  countable : row.version ≠ Int64.maxValue
  reread : u.query? = none → ∀ q, row.readQuery = .ok q → q.reread = q

theorem Revises.keepsOthers_iff (h : u.Revises now row row') : u.KeepsOthers now row row' ↔ u.Steady row := by
  obtain ⟨old, hold, hquery⟩ := h.query
  have hrewritten : u.query? = none → row'.readQuery = .ok old.reread := by
    intro hnone
    rw [hnone] at hquery
    exact ReportRow.readQuery_rewritten hold hquery
  have hversion : row'.version.toInt = row.version.toInt + 1 ↔ row.version ≠ Int64.maxValue := by
    rw [h.version]
    exact toInt_add_one_iff
  constructor
  · intro hkeeps
    refine ⟨hversion.mp hkeeps.successor, fun hnone q hq => ?_⟩
    obtain rfl : old = q := Except.ok.inj (hold.symm.trans hq)
    exact Except.ok.inj ((hrewritten hnone).symm.trans ((hkeeps.kept hnone).trans hold))
  · intro hsteady
    refine { h with successor := hversion.mpr hsteady.countable, kept := fun hnone => ?_ }
    rw [hrewritten hnone, hsteady.reread hnone old hold, hold]

end ReportUpdate

namespace Request

variable {c : CallSetting} {s s' : Store} {request : Request}

def UpdatesSteady (s : Store) (request : Request) : Prop :=
  ∀ id u, request = .updateReport id u → ∀ row ∈ s.reports, row.isLiveWith id = true → u.Steady row

theorem Effect.updatesSteady (hs : s.Keyed) (h : request.Effect (fun u => u.KeepsOthers c.now) c s s') :
    request.UpdatesSteady s := by
  rintro id u rfl r hr hrlive
  obtain ⟨_, -, before, row, row', after, hrows, -, hlive, hkeeps⟩ := h
  have hrow : row ∈ s.reports := hrows ▸ List.mem_append_right _ (List.mem_cons_self ..)
  obtain rfl : r = row :=
    hs.reports.eq_of_id_eq hr hrow ((Reporting.isLiveWith_id hrlive).trans (Reporting.isLiveWith_id hlive).symm)
  exact hkeeps.toRevises.keepsOthers_iff.mp hkeeps

theorem Effect.keepsOthers (h : request.Effect (fun u => u.Revises c.now) c s s') (hsteady : request.UpdatesSteady s) :
    request.Effect (fun u => u.KeepsOthers c.now) c s s' := by
  cases request with
  | updateReport id u =>
    obtain ⟨rows, rfl, hrevised⟩ := h
    refine ⟨rows, rfl, hrevised.imp fun row hrow row' h => ⟨h.1, ?_⟩⟩
    exact h.2.keepsOthers_iff.mpr (hsteady id u rfl row hrow h.1)
  | _ => exact h

/-- Run alone, a call that fails leaves the store as it was, and one that succeeds edits only what it is about. What an
update does not give is kept, with one version more, if and only if the report is steady. -/
theorem run_alone_iff (source : StatementPair → FetchCourse) {s : Store} (hs : s.Keyed) {c : CallSetting}
    {request : Request} (halone : request.runId? c = none) :
    (∀ cause, ((request.call c).run source s).2 = .error cause → ((request.call c).run source s).1 = s) ∧
      ∀ answer, ((request.call c).run source s).2 = .ok answer →
        request.Effect (fun u => u.Revises c.now) c s ((request.call c).run source s).1 ∧
          (request.Effect (fun u => u.KeepsOthers c.now) c s ((request.call c).run source s).1 ↔
            request.UpdatesSteady s) := by
  have hsettles : (request.call c).Settles source s fun s' _ =>
      request.Effect (fun u => u.Revises c.now) c s s' := settles hs halone
  unfold Call.Settles at hsettles
  constructor
  · intro cause hcause
    obtain ⟨s', hrun⟩ : ∃ s', (request.call c).run source s = (s', .error cause) := ⟨_, Prod.ext rfl hcause⟩
    rw [hrun] at hsettles ⊢
    exact hsettles
  · intro answer hanswer
    obtain ⟨s', hrun⟩ : ∃ s', (request.call c).run source s = (s', .ok answer) := ⟨_, Prod.ext rfl hanswer⟩
    rw [hrun] at hsettles ⊢
    exact ⟨hsettles, fun hkeeps => hkeeps.updatesSteady hs, hsettles.keepsOthers⟩

def vintagesAbove (bound : Cell) : ReportQuery :=
  ⟨"carbon_credits", [⟨"status", none, none, 0, none, false, none⟩], [⟨"vintage_year", .gt, bound, none⟩], [], [],
    [], 0⟩

def withVintages (bound : Cell) : Store :=
  { Store.empty with reports := [.ofReport
    (NewReport.report ⟨"Vintages", none, .custom, vintagesAbove bound, none, .everyone, false⟩ .nil atNoon.now)] }

def renamed : Request := .updateReport .nil ⟨some "Late vintages", none, none, none, none, none⟩

theorem keyed_withVintages (bound : Cell) : (withVintages bound).Keyed :=
  ⟨List.nodup_singleton _, List.nodup_nil, List.nodup_nil, List.nodup_nil, List.nodup_nil⟩

theorem updatesSteady_renamed_iff {bound : Cell} (hundated : bound.isUndated = true)
    (hdepth : bound.toJson.depth + 3 ≤ Json.depthLimit) :
    renamed.UpdatesSteady (withVintages bound) ↔ bound.reread.reread = bound.reread := by
  have hstorable : (vintagesAbove bound).IsStorable := List.forall_mem_singleton.mpr ⟨hundated, hdepth⟩
  have hread : ∀ row ∈ (withVintages bound).reports, row.readQuery = .ok (vintagesAbove bound.reread) :=
    List.forall_mem_singleton.mpr (hstorable.readJson_print 4)
  constructor
  · intro hsteady
    have hrow := hsteady .nil _ rfl _ (List.mem_singleton_self _) (by rfl)
    have hquery : vintagesAbove bound.reread.reread = vintagesAbove bound.reread :=
      hrow.reread rfl _ (hread _ (List.mem_singleton_self _))
    simpa [vintagesAbove] using hquery
  · rintro hsame _ _ ⟨rfl, rfl⟩ row hrow -
    refine ⟨?_, fun _ q hq => ?_⟩
    · rw [List.mem_singleton.mp hrow]
      exact (by decide : (1 : Int64) ≠ Int64.maxValue)
    · rw [hread row hrow] at hq
      obtain rfl := Except.ok.inj hq
      exact congrArg vintagesAbove hsame

theorem run_alone_iff_renamed : (withVintages (.int 2000)).Keyed ∧ renamed.runId? atNoon = none ∧
    renamed.Effect (fun u => u.KeepsOthers atNoon.now) atNoon (withVintages (.int 2000))
      ((renamed.call atNoon).run Store.answerNothing (withVintages (.int 2000))).1 := by
  have hsteady : renamed.UpdatesSteady (withVintages (.int 2000)) :=
    (updatesSteady_renamed_iff rfl (by decide)).mpr rfl
  have hok : ((renamed.call atNoon).run Store.answerNothing (withVintages (.int 2000))).2.isOk = true := by
    decide +kernel
  obtain ⟨answer, hanswer⟩ := exists_eq_ok_of_isOk hok
  have halone : renamed.runId? atNoon = none := rfl
  have hrun := run_alone_iff Store.answerNothing (keyed_withVintages (.int 2000)) halone
  exact ⟨keyed_withVintages _, halone, (hrun.2 answer hanswer).2.mpr hsteady⟩

theorem renamed_losesQuery : (withVintages (.float 1.2e38)).Keyed ∧ renamed.runId? atNoon = none ∧
    (∃ answer, ((renamed.call atNoon).run Store.answerNothing (withVintages (.float 1.2e38))).2 = .ok answer) ∧
    ¬ renamed.Effect (fun u => u.KeepsOthers atNoon.now) atNoon (withVintages (.float 1.2e38))
      ((renamed.call atNoon).run Store.answerNothing (withVintages (.float 1.2e38))).1 := by
  have hkeyed := keyed_withVintages (.float 1.2e38)
  have hok : ((renamed.call atNoon).run Store.answerNothing (withVintages (.float 1.2e38))).2.isOk = true := by
    decide +kernel
  refine ⟨hkeyed, rfl, exists_eq_ok_of_isOk hok, fun hkeeps => ?_⟩
  have hsteady := (updatesSteady_renamed_iff rfl (by rw [Cell.toJson, Cell.depth_ofFloat]; decide)).mp
    (hkeeps.updatesSteady hkeyed)
  have hfinite : (1.2e38 : Float).isFinite = true := by decide +kernel
  have hfinite' : (Json.rereadFloat 1.2e38).isFinite = true := by decide +kernel
  have hdrifts : Json.rereadFloat (Json.rereadFloat 1.2e38) ≠ Json.rereadFloat 1.2e38 := by decide +kernel
  rw [Cell.reread, if_pos hfinite, Cell.reread, if_pos hfinite'] at hsteady
  exact hdrifts (Cell.float.inj hsteady)

end Request

end PortfolioReports
