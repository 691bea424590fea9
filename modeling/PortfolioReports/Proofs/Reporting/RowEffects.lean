import PortfolioReports.Proofs.Reporting.Alone
import PortfolioReports.Proofs.Reporting.Interleaving
import PortfolioReports.Proofs.Reporting.StoredReports
import PortfolioReports.Proofs.Store.Executions
import PortfolioReports.Proofs.Store.Widgets

namespace PortfolioReports

open Calendar

structure ReportUpdate.Revises (u : ReportUpdate) (now : Moment) (row row' : ReportRow) : Prop where
  id : row'.id = row.id
  createdBy : row'.createdBy? = row.createdBy?
  basedOn : row'.basedOn? = row.basedOn?
  createdAt : row'.createdAt = row.createdAt
  deletedAt : row'.deletedAt? = row.deletedAt?
  updatedAt : row'.updatedAt = utcText now
  version : row'.version = row.version + 1
  name : row'.name = u.name?.getD row.name
  description : row'.description? = u.description?.or row.description?
  category : row'.category = (u.category?.map Vocabulary.name).getD row.category
  visibility : row'.visibility = (u.visibility?.map Vocabulary.name).getD row.visibility
  isTemplate : row'.isTemplate = u.isTemplate?.getD row.isTemplate
  query : ∃ old, row.readQuery = .ok old ∧ row'.query = (u.query?.getD old).toJson.print

theorem ReportUpdate.revises_of_toReport {u : ReportUpdate} {now : Moment} {row : ReportRow} {x : Report}
    (h : row.toReport = .ok x) : u.Revises now row ((ReportRow.ofReport (x.revise u now)).updateFrom row) := by
  obtain ⟨hname, hdescription, hcategory, -, hvisibility, hversion, hisTemplate⟩ := ReportRow.columns_of_toReport h
  exact
    { id := rfl
      createdBy := rfl
      basedOn := rfl
      createdAt := rfl
      deletedAt := rfl
      updatedAt := rfl
      version := congrArg (· + 1) hversion
      name := congrArg u.name?.getD hname
      description := by
        rw [← hdescription]
        show u.description?.orElse (fun _ => x.description?) = _
        cases u.description? <;> rfl
      category := by
        rw [← hcategory]
        show Vocabulary.name (u.category?.getD x.category) = _
        cases u.category? <;> rfl
      visibility := by
        rw [← hvisibility]
        show Vocabulary.name (u.visibility?.getD x.visibility) = _
        cases u.visibility? <;> rfl
      isTemplate := congrArg u.isTemplate?.getD hisTemplate
      query := ⟨x.query, ReportRow.readQuery_of_toReport h, rfl⟩ }

def ExecutionRow.CalledOff (now : Moment) (row row' : ExecutionRow) : Prop :=
  row' = { row with
    status := Vocabulary.name ExecutionStatus.failed
    error? := some Reporting.cancelledByUser
    completedAt? := some (utcText now) }

def WidgetRow.Moved (user : Uuid) (now : Moment) (row row' : WidgetRow) : Prop :=
  row' = row ∨ row.owner? = some user.toText ∧ ∃ position, row' = { row with position, updatedAt := utcText now }

/-- What a call makes of the store when it succeeds, where `R` is what an update makes of the row of its report. -/
def Request.Effect (R : ReportUpdate → ReportRow → ReportRow → Prop) (c : CallSetting) (s s' : Store) :
    Request → Prop
  | .createReport r => s' = { s with reports := s.reports ++ [.ofReport (r.report c.fresh c.now)] }
  | .updateReport id u => ∃ rows, s' = { s with reports := rows } ∧
      Store.Replaced (fun row row' => row.isLiveWith id = true ∧ R u row row') s.reports rows
  | .deleteReport id => ∃ rows, s' = { s with reports := rows } ∧
      Store.Replaced (fun row row' => row.isLiveWith id = true ∧
        row' = { row with deletedAt? := some (utcText c.now) }) s.reports rows
  | .cloneReport id name owner? => ∃ x, s.getReport id = .ok (some x) ∧
      s' = { s with reports := s.reports ++ [.ofReport (x.copy c.fresh name owner? c.now)] }
  | .cancelExecution id => ∃ rows, s' = { s with executions := rows } ∧
      Store.Replaced (fun row row' => row.id = id.toText ∧ row.CalledOff c.now row') s.executions rows
  | .createSchedule r => s' = { s with schedules := s.schedules ++ [.ofSchedule (r.schedule c.fresh c.now)] }
  | .setScheduleActive id isActive => ∃ rows, s' = { s with schedules := rows } ∧
      Store.Replaced (fun row row' => row.id = id.toText ∧
        row' = { row with isActive, updatedAt := utcText c.now }) s.schedules rows
  | .deleteSchedule id => ∃ rows, s' = { s with schedules := rows } ∧
      Store.Removed (fun row => row.id = id.toText) s.schedules rows
  | .createBenchmark b =>
      s' = { s with benchmarks := s.benchmarks ++ [.ofBenchmark (b.benchmark c.fresh c.now c.now)] }
  | .updateBenchmark id b => ∃ rows, s' = { s with benchmarks := rows } ∧
      Store.Replaced (fun row row' => row.id = id.toText ∧
        row' = { BenchmarkRow.ofBenchmark (b.benchmark id c.now c.now) with
          id := row.id, createdAt := row.createdAt }) s.benchmarks rows
  | .deleteBenchmark id => ∃ rows, s' = { s with benchmarks := rows } ∧
      Store.Removed (fun row => row.id = id.toText) s.benchmarks rows
  | .saveWidget w => ∃ rows, s' = { s with widgets := rows } ∧
      ∃ saved : Widget, (saved.id = if w.id.isNil then c.fresh else w.id) ∧
        (rows = s.widgets ++ [.ofWidget saved] ∨
          Store.Replaced (fun row row' => row.id = saved.id.toText ∧
            row' = { WidgetRow.ofWidget saved with createdAt := row.createdAt }) s.widgets rows)
  | .moveWidgets user _ => ∃ move : WidgetRow → WidgetRow, s' = { s with widgets := s.widgets.map move } ∧
      ∀ row : WidgetRow, row.Moved user c.now (move row)
  | .deleteWidget id => ∃ rows, s' = { s with widgets := rows } ∧
      Store.Removed (fun row => row.id = id.toText) s.widgets rows
  | .putSetting key value => s' = s.putSetting key value
  | .executeReport .. | .executeQuery .. => True
  | _ => s' = s

theorem ExecutionRow.outcome_of_toExecution {row : ExecutionRow} {e : Execution} (h : row.toExecution = .ok e) :
    e.recordCount? = row.recordCount? ∧ e.fileSize? = row.fileSize? ∧ e.fileKey? = row.fileKey? := by
  simp only [toExecution, bind, Except.bind] at h
  repeat' split at h
  all_goals cases h
  exact ⟨rfl, rfl, rfl⟩

theorem BenchmarkRow.id_of_toBenchmark {row : BenchmarkRow} {b : Benchmark} (h : row.toBenchmark = .ok b) {u : Uuid}
    (hid : row.id = u.toText) : b.id = u := by
  simp only [toBenchmark, hid, Stored.readUuid_toText, bind, Except.bind] at h
  repeat' split at h
  all_goals cases h
  rfl

namespace Store

theorem of_getBenchmark {s : Store} {u : Uuid} {b : Benchmark} (h : s.getBenchmark u = .ok (some b)) :
    ∃ r ∈ s.benchmarks, r.id = u.toText ∧ b.id = u := by
  obtain ⟨r, hr, hid, hread⟩ := of_readFirst h
  exact ⟨r, hr, beq_iff_eq.mp hid, BenchmarkRow.id_of_toBenchmark hread (beq_iff_eq.mp hid)⟩

end Store

namespace Reporting

open Call Store

variable {source : StatementPair → FetchCourse} {s : Store} {c : CallSetting}

theorem looks_getReport (id : Uuid) :
    (getReport id).Looks source s fun x => s.getReport id = .ok (some x) := .readFound

theorem isLiveWith_id {id : Uuid} {r : ReportRow} (h : r.isLiveWith id = true) : r.id = id.toText := by
  simp only [ReportRow.isLiveWith, Bool.and_eq_true, beq_iff_eq] at h
  exact h.2

theorem settles_createReport (r : NewReport) :
    ((Request.createReport r).call c).Settles source s fun s' _ =>
      s' = { s with reports := s.reports ++ [.ofReport (r.report c.fresh c.now)] } := by
  refine .map ((Settles.requireText _ _).bind fun _ _ => Settles.check.bind fun _ _ => .insert fun s' hs' => ?_)
  simp only [Store.insertReport] at hs'
  split at hs'
  · cases hs'
  · exact (Except.ok.inj hs').symm

theorem looks_checkName (name? : Option String) :
    (match name? with
      | some name => requireText name .reportNameRequired
      | none => pure () : Call Unit).Looks source s fun _ => True := by
  cases name? with
  | some name => exact .requireText _ _
  | none => exact .pure ⟨rfl, trivial⟩

theorem looks_checkUpdate (u : ReportUpdate) : (checkUpdate u).Looks source s fun _ => True := by
  unfold checkUpdate
  cases u.query? with
  | none => exact looks_checkName u.name?
  | some q => exact Settles.check.bind fun _ _ => looks_checkName u.name?

theorem settles_updateReport (hs : s.Keyed) (id : Uuid) (u : ReportUpdate) :
    ((Request.updateReport id u).call c).Settles source s fun s' _ => ∃ rows, s' = { s with reports := rows } ∧
      Replaced (fun row row' => row.isLiveWith id = true ∧ u.Revises c.now row row') s.reports rows := by
  refine .map ((looks_getReport id).bind fun x hx => (looks_checkUpdate u).bind fun _ _ => ?_)
  obtain ⟨r, hr, -, hread, hid⟩ := of_getReport hx
  have hid' : (x.revise u c.now).id = id := hid
  refine .changed_pure (fun hno => ?_) fun hany => ?_
  · rw [Store.updateReport, hid'] at hno ⊢
    exact congrArg (fun rows => { s with reports := rows }) (change_of_not_any _ hno)
  · rw [Store.updateReport, hid'] at hany ⊢
    refine ⟨_, rfl, (replaced_of_change hs.reports (fun _ => isLiveWith_id) _ hany).imp ?_⟩
    rintro row hrow row' ⟨hlive, rfl⟩
    -- the row that is replaced is the one that was read
    have hsame : row = r := by
      obtain ⟨hmem, hrid⟩ := List.mem_filter.mp hr
      exact hs.reports.eq_of_id_eq hrow hmem ((isLiveWith_id hlive).trans (beq_iff_eq.mp hrid).symm)
    rw [hsame] at hlive ⊢
    exact ⟨hlive, u.revises_of_toReport hread⟩

theorem settles_deleteReport (hs : s.Keyed) (id : Uuid) :
    ((Request.deleteReport id).call c).Settles source s fun s' _ => ∃ rows, s' = { s with reports := rows } ∧
      Replaced (fun row row' => row.isLiveWith id = true ∧
        row' = { row with deletedAt? := some (utcText c.now) }) s.reports rows := by
  refine .map (.changed (fun hno => ?_) fun hany => ?_)
  · exact congrArg (fun rows => { s with reports := rows }) (change_of_not_any _ hno)
  · exact ⟨_, rfl, replaced_of_change hs.reports (fun _ => isLiveWith_id) _ hany⟩

theorem settles_cloneReport (id : Uuid) (name : String) (owner? : Option Uuid) :
    ((Request.cloneReport id name owner?).call c).Settles source s fun s' _ => ∃ x, s.getReport id = .ok (some x) ∧
      s' = { s with reports := s.reports ++ [.ofReport (x.copy c.fresh name owner? c.now)] } := by
  refine .map ((looks_getReport id).bind fun x hx => .insert fun s' hs' => ?_)
  simp only [Store.insertReport] at hs'
  split at hs'
  · cases hs'
  · exact ⟨x, hx, (Except.ok.inj hs').symm⟩

theorem calledOff_of_toExecution {row : ExecutionRow} {e : Execution} (h : row.toExecution = .ok e) (now : Moment) :
    row.CalledOff now ((ExecutionRow.ofExecution
      (({ e with status := .failed }).stopped cancelledByUser now)).updateFrom row) := by
  obtain ⟨hcount, hsize, hkey⟩ := ExecutionRow.outcome_of_toExecution h
  simp [ExecutionRow.CalledOff, ExecutionRow.updateFrom, ExecutionRow.ofExecution, Execution.stopped, hcount, hsize,
    hkey]

theorem settles_cancelExecution (hs : s.Keyed) (id : Uuid) :
    ((Request.cancelExecution id).call c).Settles source s fun s' _ => ∃ rows, s' = { s with executions := rows } ∧
      Replaced (fun row row' => row.id = id.toText ∧ row.CalledOff c.now row') s.executions rows := by
  refine .map (Settles.readFound.bind fun e he => Settles.check.bind fun _ _ => ?_)
  obtain ⟨r, hr, hrid, hread⟩ := of_getExecution he
  have hid : e.id = id := ExecutionRow.id_of_toExecution hread hrid
  refine .change_pure ⟨_, rfl, ?_⟩
  have hany : (s.executions.any fun r => r.id == e.id.toText) = true :=
    List.any_eq_true.mpr ⟨r, hr, by rw [hid, hrid, beq_self_eq_true]⟩
  refine (replaced_of_change hs.executions (fun _ => beq_iff_eq.mp) _ hany).imp ?_
  rintro row hrow row' ⟨hholds, rfl⟩
  have hrowid : row.id = id.toText := hid ▸ beq_iff_eq.mp hholds
  have hsame : row = r := List.inj_on_of_nodup_map hs.executions hrow hr (hrowid.trans hrid.symm)
  rw [hsame]
  exact ⟨hrid, calledOff_of_toExecution hread c.now⟩

theorem settles_makeSchedule (id : Uuid) (now : Moment) (r : NewSchedule) :
    (createSchedule id now r).Settles source s fun s' x => validateCron r.cron = .ok () ∧ x = r.schedule id now ∧
      s' = { s with schedules := s.schedules ++ [.ofSchedule x] } := by
  refine (looks_getReport r.report).bind fun _ _ => Settles.check.bind fun _ hcron =>
    (Settles.requireText _ _).bind fun _ _ => ?_
  cases r.hasTarget with
  | false => exact .fail _
  | true =>
    refine .insert fun s' hs' => ⟨hcron, rfl, ?_⟩
    simp only [Store.insertSchedule] at hs'
    repeat' split at hs'
    all_goals cases hs'
    rfl

theorem settles_createSchedule (r : NewSchedule) :
    ((Request.createSchedule r).call c).Settles source s fun s' _ =>
      s' = { s with schedules := s.schedules ++ [.ofSchedule (r.schedule c.fresh c.now)] } :=
  .map ((settles_makeSchedule c.fresh c.now r).mono fun _ _ ⟨_, hx, hs'⟩ => hx ▸ hs')

theorem settles_setScheduleActive (hs : s.Keyed) (id : Uuid) (isActive : Bool) :
    ((Request.setScheduleActive id isActive).call c).Settles source s fun s' _ =>
      ∃ rows, s' = { s with schedules := rows } ∧ Replaced (fun row row' => row.id = id.toText ∧
        row' = { row with isActive, updatedAt := utcText c.now }) s.schedules rows := by
  refine .map (.changed (fun hno => ?_) fun hany => ?_)
  · exact congrArg (fun rows => { s with schedules := rows }) (change_of_not_any _ hno)
  · refine ⟨_, rfl, (replaced_of_change hs.schedules (fun _ => beq_iff_eq.mp) _ hany).imp ?_⟩
    exact fun _ _ _ h => ⟨beq_iff_eq.mp h.1, h.2⟩

theorem settles_deleteSchedule (hs : s.Keyed) (id : Uuid) :
    ((Request.deleteSchedule id).call c).Settles source s fun s' _ => ∃ rows, s' = { s with schedules := rows } ∧
      Removed (fun row => row.id = id.toText) s.schedules rows := by
  refine .map (.changed (fun hno => ?_) fun hany => ?_)
  · exact congrArg (fun rows => { s with schedules := rows }) (filter_of_not_any hno)
  · exact ⟨_, rfl, removed_of_filter hs.schedules hany⟩

theorem writes_createBenchmark (b : NewBenchmark) :
    ((Request.createBenchmark b).call c).Settles source s fun s' _ =>
      s.insertBenchmark (b.benchmark c.fresh c.now c.now) = .ok s' :=
  .map (Settles.check.bind fun _ _ => .insert fun _ hs' => hs')

theorem settles_createBenchmark (b : NewBenchmark) :
    ((Request.createBenchmark b).call c).Settles source s fun s' _ =>
      s' = { s with benchmarks := s.benchmarks ++ [.ofBenchmark (b.benchmark c.fresh c.now c.now)] } := by
  refine (writes_createBenchmark b).mono fun s' _ hs' => ?_
  simp only [Store.insertBenchmark] at hs'
  split at hs'
  · cases hs'
  · exact (Except.ok.inj hs').symm

theorem writes_updateBenchmark (id : Uuid) (b : NewBenchmark) :
    ((Request.updateBenchmark id b).call c).Settles source s fun s' _ => ∃ old, s.getBenchmark id = .ok (some old) ∧
      s' = (s.updateBenchmark (b.benchmark id old.createdAt c.now)).1 := by
  refine .map (Settles.check.bind fun _ _ => Settles.readFound.bind fun old hold => .change_pure ?_)
  obtain ⟨_, -, -, hid⟩ := of_getBenchmark hold
  exact ⟨old, hold, by rw [hid]⟩

theorem settles_updateBenchmark (hs : s.Keyed) (id : Uuid) (b : NewBenchmark) :
    ((Request.updateBenchmark id b).call c).Settles source s fun s' _ => ∃ rows, s' = { s with benchmarks := rows } ∧
      Replaced (fun row row' => row.id = id.toText ∧
        row' = { BenchmarkRow.ofBenchmark (b.benchmark id c.now c.now) with
          id := row.id, createdAt := row.createdAt }) s.benchmarks rows := by
  refine (writes_updateBenchmark id b).mono fun s' _ ⟨old, hold, hs'⟩ => ⟨_, hs', ?_⟩
  obtain ⟨r, hr, hrid, -⟩ := of_getBenchmark hold
  have hany : (s.benchmarks.any fun r => r.id == id.toText) = true :=
    List.any_eq_true.mpr ⟨r, hr, by rw [hrid, beq_self_eq_true]⟩
  refine (replaced_of_change hs.benchmarks (fun _ => beq_iff_eq.mp) _ hany).imp ?_
  rintro row - row' ⟨hholds, rfl⟩
  exact ⟨beq_iff_eq.mp hholds, rfl⟩

theorem settles_deleteBenchmark (hs : s.Keyed) (id : Uuid) :
    ((Request.deleteBenchmark id).call c).Settles source s fun s' _ => ∃ rows, s' = { s with benchmarks := rows } ∧
      Removed (fun row => row.id = id.toText) s.benchmarks rows := by
  refine .map (.changed (fun hno => ?_) fun hany => ?_)
  · exact congrArg (fun rows => { s with benchmarks := rows }) (filter_of_not_any hno)
  · exact ⟨_, rfl, removed_of_filter hs.benchmarks hany⟩

theorem looks_stampWidget (fresh : Uuid) (now : Moment) (w : Widget) :
    (stampWidget fresh now w).Looks source s fun saved => saved.id = if w.id.isNil then fresh else w.id := by
  unfold stampWidget
  split
  · exact .pure ⟨rfl, rfl⟩
  · exact Settles.read.bind fun _ _ => .pure ⟨rfl, rfl⟩

theorem settles_saveWidget (hs : s.Keyed) (w : Widget) :
    ((Request.saveWidget w).call c).Settles source s fun s' _ => ∃ rows, s' = { s with widgets := rows } ∧
      ∃ saved : Widget, (saved.id = if w.id.isNil then c.fresh else w.id) ∧
        (rows = s.widgets ++ [.ofWidget saved] ∨
          Replaced (fun row row' => row.id = saved.id.toText ∧
            row' = { WidgetRow.ofWidget saved with createdAt := row.createdAt }) s.widgets rows) := by
  refine .map (Settles.check.bind fun _ _ => (looks_stampWidget _ _ w).bind fun saved hsaved => .change ?_)
  simp only [Store.putWidget]
  split
  · rename_i hany
    refine ⟨_, rfl, saved, hsaved, .inr ?_⟩
    refine (replaced_of_change hs.widgets (fun _ => beq_iff_eq.mp) _ hany).imp ?_
    exact fun _ _ _ h => ⟨beq_iff_eq.mp h.1, h.2⟩
  · exact ⟨_, rfl, saved, hsaved, .inl rfl⟩

theorem moveWidgets_eq_map (s : Store) (user : Uuid) (now : Moment) (positions : List (Uuid × Int64)) :
    ∃ move : WidgetRow → WidgetRow, (s.moveWidgets user now positions).1 = { s with widgets := s.widgets.map move } ∧
      ∀ row : WidgetRow, row.Moved user now (move row) := by
  refine ⟨_, moveWidgets_fst s user now positions, fun row => ?_⟩
  have hmoved : row.MovedBy user now positions (positions.foldl (WidgetRow.place user now) row) :=
    WidgetRow.movedBy_foldl_place positions row
  obtain ⟨⟨position, updatedAt, hsame⟩, hnamed, hothers⟩ := hmoved
  by_cases howner : row.owner? = some user.toText
  · cases hlast : lastPosition? row.id positions with
    | none => exact .inl (hothers (.inr hlast))
    | some last =>
      rw [hsame] at hnamed ⊢
      exact .inr ⟨howner, position, by rw [← (hnamed howner last hlast).2]⟩
  · exact .inl (hothers (.inl howner))

theorem settles_deleteWidget (hs : s.Keyed) (id : Uuid) :
    ((Request.deleteWidget id).call c).Settles source s fun s' _ => ∃ rows, s' = { s with widgets := rows } ∧
      Removed (fun row => row.id = id.toText) s.widgets rows := by
  refine .map (.changed (fun hno => ?_) fun hany => ?_)
  · exact congrArg (fun rows => { s with widgets := rows }) (filter_of_not_any hno)
  · exact ⟨_, rfl, removed_of_filter hs.widgets hany⟩

end Reporting

open Call Reporting in
theorem Request.settles {source : StatementPair → FetchCourse} {s : Store} (hs : s.Keyed) {c : CallSetting}
    {request : Request} (halone : request.runId? c = none) :
    (request.call c).Settles source s fun s' _ => request.Effect (fun u => u.Revises c.now) c s s' := by
  have hlook : ∀ {α : Type} {g : α → Answer} {table : StoreTable} {get : Store → Except StoreFault α},
      (g <$> Call.read table get).Settles source s fun s' _ => s' = s :=
    .map (Settles.read.mono fun _ _ h => h.1)
  cases request with
  | datasets => exact .pure rfl
  | createReport r => exact settles_createReport r
  | getReport id => exact .map ((looks_getReport id).mono fun _ _ h => h.1)
  | updateReport id u => exact settles_updateReport hs id u
  | deleteReport id => exact settles_deleteReport hs id
  | listReports f => exact .map (Settles.read.bind fun _ _ => .pure rfl)
  | listTemplates => exact hlook
  | cloneReport id name owner? => exact settles_cloneReport id name owner?
  | executeReport id format agent? => cases halone
  | executeQuery q title format agent? => cases halone
  | getExecution id => exact .map (Settles.readFound.mono fun _ _ h => h.1)
  | listExecutions f => exact hlook
  | cancelExecution id => exact settles_cancelExecution hs id
  | createSchedule r => exact settles_createSchedule r
  | listSchedules report? => exact hlook
  | setScheduleActive id isActive => exact settles_setScheduleActive hs id isActive
  | deleteSchedule id => exact settles_deleteSchedule hs id
  | createBenchmark b => exact settles_createBenchmark b
  | updateBenchmark id b => exact settles_updateBenchmark hs id b
  | getBenchmark id => exact .map (Settles.readFound.mono fun _ _ h => h.1)
  | deleteBenchmark id => exact settles_deleteBenchmark hs id
  | listBenchmarks f => exact hlook
  | compare project q => exact .map (Settles.read.bind fun _ _ => Settles.check.mono fun _ _ h => h.1)
  | peerPercentile project metric methodology region => exact .map (Settles.check.mono fun _ _ h => h.1)
  | saveWidget w => exact settles_saveWidget hs w
  | listWidgets user? area? =>
    refine .map ?_
    cases area? <;> exact Settles.read.mono fun _ _ h => h.1
  | moveWidgets user positions => exact .map (.change (moveWidgets_eq_map s user c.now positions))
  | deleteWidget id => exact settles_deleteWidget hs id
  | getSetting key => exact hlook
  | putSetting key value => exact .map (Settles.check.bind fun _ _ => .change rfl)
  | listSettings => exact hlook
  | settings => exact .map (Settles.read.bind fun _ _ => Settles.check.mono fun _ _ h => h.1)

end PortfolioReports
