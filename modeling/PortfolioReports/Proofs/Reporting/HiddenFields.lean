import PortfolioReports.Proofs.Csv.Stream
import PortfolioReports.Proofs.Success
import PortfolioReports.Query.Admission
import PortfolioReports.Reporting.Rendering

namespace PortfolioReports

def Row.AgreeIn (columns : List Column) (r r' : Row) : Prop := ∀ c ∈ columns, r.get? c.key = r'.get? c.key

section Agreement

variable {columns : List Column} {r r' : Row} {rows rows' : List Row}

theorem map_congr_of_agreeIn {α : Type} {f : Row → α} (hf : ∀ r r', Row.AgreeIn columns r r' → f r = f r')
    (h : List.Forall₂ (Row.AgreeIn columns) rows rows') : rows.map f = rows'.map f := by
  rw [← List.forall₂_eq_eq_eq, List.forall₂_map_left_iff, List.forall₂_map_right_iff]
  exact h.imp hf

namespace CsvDialect

theorem fieldText_congr (d : CsvDialect) {c : Column} (h : r.get? c.key = r'.get? c.key) :
    d.fieldText r c = d.fieldText r' c := by
  rw [fieldText, fieldText, h]

theorem rowText_congr (d : CsvDialect) (h : Row.AgreeIn columns r r') : d.rowText columns r = d.rowText columns r' := by
  have hfields : columns.mapM (d.fieldText r) = columns.mapM (d.fieldText r') :=
    mapM_congr_of_forall₂ (List.forall₂_same.mpr fun c hc => d.fieldText_congr (h c hc))
  rw [rowText, rowText, hfields]

theorem encode_congr (d : CsvDialect) (hne : columns ≠ []) (h : List.Forall₂ (Row.AgreeIn columns) rows rows') :
    d.encode rows columns = d.encode rows' columns := by
  have hlines : rows.mapM (d.rowText columns) = rows'.mapM (d.rowText columns) :=
    mapM_congr_of_forall₂ (h.imp fun _ _ => d.rowText_congr)
  simp only [encode, Column.resolve_of_ne_nil hne, hlines]

end CsvDialect

namespace Sheet

theorem putRecord_congr (row : UInt32) (h : Row.AgreeIn columns r r') (s : Sheet) :
    s.putRecord row columns r = s.putRecord row columns r' := by
  have hcells : columns.mapM (fun c => SheetCell.ofCell ((r.get? c.key).getD .null)) =
      columns.mapM fun c => SheetCell.ofCell ((r'.get? c.key).getD .null) :=
    mapM_congr_of_forall₂ (List.forall₂_same.mpr fun c hc => by rw [h c hc])
  rw [putRecord, putRecord, hcells]

theorem putRecords_congr (h : List.Forall₂ (Row.AgreeIn columns) rows rows') (row : UInt32) (s : Sheet) :
    putRecords columns row rows s = putRecords columns row rows' s := by
  induction h generalizing row s with
  | nil => rfl
  | cons hfirst _ ih => simp only [putRecords, putRecord_congr row hfirst, ih]

theorem fill_congr (setup : WorkbookSetup) (hne : columns ≠ []) (h : List.Forall₂ (Row.AgreeIn columns) rows rows')
    (s : Sheet) : s.fill setup columns rows = s.fill setup columns rows' := by
  have hlast : lastOf columns rows = lastOf columns rows' := by rw [lastOf, lastOf, h.length_eq]
  have hempty : rows.isEmpty = rows'.isEmpty := by cases h <;> rfl
  simp only [fill, Column.resolve_of_ne_nil hne, putRecords_congr h, hlast, hempty]

end Sheet

theorem WorkbookSetup.singleSheet_congr (setup : WorkbookSetup) (hne : columns ≠ [])
    (h : List.Forall₂ (Row.AgreeIn columns) rows rows') :
    setup.singleSheet rows columns = setup.singleSheet rows' columns := by
  have hsheet : setup.sheetOf ⟨setup.sheetName, columns, rows⟩ = setup.sheetOf ⟨setup.sheetName, columns, rows'⟩ := by
    simp only [sheetOf, Sheet.fill_congr setup hne h]
  have hassemble : setup.assemble [⟨setup.sheetName, columns, rows⟩] =
      setup.assemble [⟨setup.sheetName, columns, rows'⟩] := by
    rw [assemble, assemble, List.mapM_cons, List.mapM_cons, hsheet]
  unfold singleSheet workbook
  rw [hassemble]

theorem PageSetup.tablePages_congr (s : PageSetup Float) (hne : columns ≠ [])
    (h : List.Forall₂ (Row.AgreeIn columns) rows rows') : s.tablePages rows columns = s.tablePages rows' columns := by
  have htexts : rows.map (fun r => columns.map fun c => ((r.get? c.key).map Cell.printed).getD "") =
      rows'.map fun r => columns.map fun c => ((r.get? c.key).map Cell.printed).getD "" :=
    map_congr_of_agreeIn (fun r r' hr => List.map_congr_left fun c hc => by rw [hr c hc]) h
  simp only [tablePages, Canvas.table, Column.resolve_of_ne_nil hne, htexts]

theorem Row.project_congr (hne : columns ≠ []) (h : Row.AgreeIn columns r r') :
    r.project columns = r'.project columns := by
  have hcells : columns.map (fun c => (c.key, (r.get? c.key).getD .null)) =
      columns.map fun c => (c.key, (r'.get? c.key).getD .null) := List.map_congr_left fun c hc => by rw [h c hc]
  rw [project, project, List.isEmpty_eq_false_iff.mpr hne, if_neg Bool.false_ne_true, if_neg Bool.false_ne_true, hcells]

theorem Settings.render_congr (s : Settings) (format : ExportFormat) (heading : Heading) (hne : columns ≠ [])
    (h : List.Forall₂ (Row.AgreeIn columns) rows rows') :
    s.render format heading rows columns = s.render format heading rows' columns := by
  cases format with
  | csv => rw [render, render, CsvDialect.encode_congr _ hne h]
  | excel => rw [render, render, WorkbookSetup.singleSheet_congr _ hne h]
  | pdf => simp only [render, PageSetup.tablePages_congr _ hne h]
  | json =>
    have hrows : rows.map (Row.project columns) = rows'.map (Row.project columns) :=
      map_congr_of_agreeIn (fun _ _ => Row.project_congr hne) h
    rw [render, render, hrows]

end Agreement

namespace ReportQuery

variable {q : ReportQuery}

def ShowsKey (q : ReportQuery) (key : String) : Prop :=
  (∃ f ∈ q.fields, f.isHidden = false ∧ f.outputKey = key) ∨ ∃ c ∈ q.calculations, c.name = key

def SameShown (q : ReportQuery) : List Row → List Row → Prop :=
  List.Forall₂ fun r r' => ∀ key, q.ShowsKey key → r.get? key = r'.get? key

theorem showsKey_iff {key : String} : q.ShowsKey key ↔ ∃ c ∈ q.columns, c.key = key := by
  simp [ShowsKey, columns, columnsOfFields, List.mem_mergeSort, Column.ofKey, or_and_right, exists_or, and_assoc]

theorem columns_ne_nil_iff : q.columns ≠ [] ↔ (∃ f ∈ q.fields, f.isHidden = false) ∨ q.calculations ≠ [] := by
  constructor
  · intro hne
    obtain ⟨c, hc⟩ := List.exists_mem_of_ne_nil _ hne
    rcases showsKey_iff.mpr ⟨c, hc, rfl⟩ with ⟨f, hf, hvisible, -⟩ | ⟨x, hx, -⟩
    · exact .inl ⟨f, hf, hvisible⟩
    · exact .inr (List.ne_nil_of_mem hx)
  · intro h
    have hkey : ∃ key, q.ShowsKey key := by
      rcases h with ⟨f, hf, hvisible⟩ | hcalculations
      · exact ⟨f.outputKey, .inl ⟨f, hf, hvisible, rfl⟩⟩
      · obtain ⟨x, hx⟩ := List.exists_mem_of_ne_nil _ hcalculations
        exact ⟨x.name, .inr ⟨x, hx, rfl⟩⟩
    obtain ⟨key, hshown⟩ := hkey
    obtain ⟨c, hc, -⟩ := showsKey_iff.mp hshown
    exact List.ne_nil_of_mem hc

theorem SameShown.agreeIn {rows rows' : List Row} (h : q.SameShown rows rows') :
    List.Forall₂ (Row.AgreeIn q.columns) rows rows' :=
  h.imp fun _ _ hr c hc => hr c.key (showsKey_iff.mpr ⟨c, hc, rfl⟩)

/-- Whatever else rows hold, their rendering is the same in every format, or the same error. -/
def ShowsVisibleOnly (q : ReportQuery) (s : Settings) (heading : Heading) : Prop :=
  ∀ format rows rows', q.SameShown rows rows' →
    s.render format heading rows q.columns = s.render format heading rows' q.columns

theorem sameShown_of_columns_nil (h : q.columns = []) {rows rows' : List Row} (hlength : rows.length = rows'.length) :
    q.SameShown rows rows' := by
  refine List.forall₂_of_length_eq_of_get hlength fun i _ _ key hkey => ?_
  obtain ⟨c, hc, -⟩ := showsKey_iff.mp hkey
  rw [h] at hc
  cases hc

theorem not_showsVisibleOnly_of_columns_nil (h : q.columns = []) (s : Settings) (heading : Heading) :
    ¬q.ShowsVisibleOnly s heading := by
  intro hvisible
  -- rows are written as they are, so one without cells and one with a cell differ
  have hsame := hvisible .json [.empty] [⟨[("", .null)]⟩] (sameShown_of_columns_nil h rfl)
  rw [h] at hsame
  have htexts : rowsText [.empty] = rowsText [⟨[("", .null)]⟩] := Rendering.text.inj (Except.ok.inj hsame)
  revert htexts
  decide

/-- It takes one field that is not hidden, or one calculation, to hide all fields that are. -/
theorem showsVisibleOnly_iff (q : ReportQuery) (s : Settings) (heading : Heading) :
    q.ShowsVisibleOnly s heading ↔ (∃ f ∈ q.fields, f.isHidden = false) ∨ q.calculations ≠ [] := by
  rw [← columns_ne_nil_iff]
  constructor
  · intro hvisible hnil
    exact not_showsVisibleOnly_of_columns_nil hnil s heading hvisible
  · intro hne format rows rows' hrows
    exact s.render_congr format heading hne hrows.agreeIn

def hiddenName : ReportQuery := ⟨"projects", [⟨"name", none, none, 0, none, true, none⟩], [], [], [], [], 0⟩

def north : List Row := [⟨[("name", .text "North")]⟩]

def south : List Row := [⟨[("name", .text "South")]⟩]

theorem hiddenName_shown : hiddenName.validate = .ok () ∧ hiddenName.SameShown north south ∧
    (∀ heading : Heading,
      Settings.standard.render .csv heading north hiddenName.columns = .ok (.text "name\r\nNorth\r\n") ∧
      Settings.standard.render .csv heading south hiddenName.columns = .ok (.text "name\r\nSouth\r\n")) ∧
    ∀ heading, ¬hiddenName.ShowsVisibleOnly .standard heading := by
  have hnil : hiddenName.columns = [] := by simp [hiddenName, columns, columnsOfFields]
  refine ⟨by rfl, sameShown_of_columns_nil hnil rfl, fun heading => ?_, fun heading => ?_⟩
  · rw [hnil]
    exact ⟨rfl, rfl⟩
  · exact not_showsVisibleOnly_of_columns_nil hnil _ _

end ReportQuery

end PortfolioReports
