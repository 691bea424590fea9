import PortfolioReports.CommandLine.MemoryHost
import PortfolioReports.Proofs.Json.SortedEntries
import PortfolioReports.Proofs.Table.Erasure

namespace PortfolioReports

open Json

namespace Row

variable {r : Row} {columns : List Column}

def keysOf (columns : List Column) : List String := (columns.map Column.key).eraseDups

theorem project_nil (r : Row) : r.project [] = r := rfl

theorem project_of_ne_nil (hne : columns ≠ []) (r : Row) :
    r.project columns = ⟨(keysOf columns).map fun k => (k, (r.get? k).getD .null)⟩ := by
  have hentries : columns.map (fun c => (c.key, (r.get? c.key).getD .null)) =
      (columns.map Column.key).map fun k => (k, (r.get? k).getD .null) := by
    rw [List.map_map]
    rfl
  rw [project, List.isEmpty_eq_false_iff.mpr hne, if_neg Bool.false_ne_true, hentries, ofEntries_map]
  rfl

theorem keys_project (hne : columns ≠ []) (r : Row) : (r.project columns).keys = keysOf columns := by
  rw [project_of_ne_nil hne, keys, List.map_map]
  exact List.map_id' _

theorem map_get?_keys (hkeys : r.keys.Nodup) : r.keys.map (fun k => (k, (r.get? k).getD .null)) = r.cells := by
  rw [keys, List.map_map]
  refine (List.map_congr_left fun e he => ?_).trans (List.map_id _)
  have hcell : r.get? e.1 = some e.2 := (lookup_eq_some_iff_mem hkeys).mpr he
  rw [Function.comp_apply, hcell]
  rfl

theorem reread_project_iff (hkeys : r.keys.Nodup) :
    (r.project columns).toJson.reread = r.toJson.reread ↔ columns = [] ∨ r.keys = keysOf columns := by
  by_cases hnil : columns = []
  · rw [hnil, project_nil]
    exact iff_of_true rfl (.inl rfl)
  · constructor
    · intro hsame
      have hfields : (r.project columns).cells.map (fun e => (e.1, e.2.toJson.reread)) =
          r.cells.map fun e => (e.1, e.2.toJson.reread) := by
        simpa [toJson, reread, rereadFields_eq, Function.comp_def] using hsame
      have hnames := congrArg (List.map Prod.fst) hfields
      rw [List.map_map, List.map_map] at hnames
      exact .inr (hnames.symm.trans (keys_project hnil r))
    · rintro (h | h)
      · exact absurd h hnil
      · rw [project_of_ne_nil hnil, ← h, map_get?_keys hkeys]

theorem nodup_of_ofJson? {j : Json} (h : ofJson? j = some r) : r.keys.Nodup := by
  cases j with
  | object fields =>
    obtain ⟨entries, -, rfl⟩ := Option.map_eq_some_iff.mp h
    exact nodup_keys_ofEntries entries
  | _ => cases h

end Row

/-- Two JSON texts hold the same table: its objects in their order, each with its keys in their order and its
values. -/
def SameTable (text text' : String) : Prop := ∃ j, parse? text = some j ∧ parse? text' = some j

theorem sameTable_rowsText_iff {rows : List Row} {columns : List Column} (hkeys : ∀ r ∈ rows, r.keys.Nodup) :
    SameTable (rowsText rows) (rowsText (rows.map (Row.project columns))) ↔
      columns = [] ∨ ∀ r ∈ rows, r.keys = Row.keysOf columns := by
  have htables : SameTable (rowsText rows) (rowsText (rows.map (Row.project columns))) ↔
      ∀ r ∈ rows, (r.project columns).toJson.reread = r.toJson.reread := by
    simp only [SameTable, rowsText, parse?_pretty, reread, rereadItems_eq, List.map_map, Option.some.injEq,
      exists_eq_left', Json.list.injEq, List.map_inj_left, Function.comp_apply]
  rw [htables, forall₂_congr fun r hr => Row.reread_project_iff (hkeys r hr)]
  constructor
  · intro hall
    by_cases hnil : columns = []
    · exact .inl hnil
    · exact .inr fun r hr => (hall r hr).resolve_left hnil
  · rintro (hnil | hall) r hr
    · exact .inl hnil
    · exact .inr (hall r hr)

namespace CommandLine

variable {α β : Type} {h h' h'' : MemoryHost}

def runOn (h : MemoryHost) (work : Work (StateM MemoryHost) α) : Except Failure α × MemoryHost := work.run h

def Ends (work : Work (StateM MemoryHost) α) (h : MemoryHost) (a : α) (h' : MemoryHost) : Prop :=
  runOn h work = (.ok a, h')

namespace Ends

theorem pure (a : α) (h : MemoryHost) : Ends (Pure.pure a) h a h := rfl

theorem run_bind {x : Work (StateM MemoryHost) α} {a : α} (hx : Ends x h a h') (k : α → Work (StateM MemoryHost) β) :
    runOn h (x >>= k) = runOn h' (k a) := by
  show (match runOn h x with | (result, h') => ExceptT.bindCont k result h') = runOn h' (k a)
  rw [hx]
  rfl

theorem bind {x : Work (StateM MemoryHost) α} {k : α → Work (StateM MemoryHost) β} {a : α} {b : β}
    (hx : Ends x h a h') (hk : Ends (k a) h' b h'') : Ends (x >>= k) h b h'' := (hx.run_bind k).trans hk

theorem map {x : Work (StateM MemoryHost) α} {a : α} (f : α → β) (hx : Ends x h a h') : Ends (f <$> x) h (f a) h' :=
  hx.bind (k := fun a => Pure.pure (f a)) (.pure (f a) h')

theorem check {a : α} (h : MemoryHost) : Ends (Work.check (.ok a)) h a h := rfl

theorem now (h : MemoryHost) : Ends Work.now h h.time h := rfl

end Ends

def HoldsJson (h : MemoryHost) (path : String) (read : Json → Option α) (a : α) : Prop :=
  ∃ text, h.content? path = some text ∧ (parse? text).bind (within? read) = some a

structure HasSettings (h : MemoryHost) (settings : Settings) : Prop where
  allowed : h.opened.mode.refusal? (.read .settings) = none
  read : Settings.ofPairs h.opened.store.settings = .ok settings

theorem ends_readJson {path : String} {read : Json → Option α} {a : α} (hfile : HoldsJson h path read a) :
    Ends (Work.readJson read path) h a h := by
  obtain ⟨text, hcontent, hread⟩ := hfile
  have hfound : Ends (ExceptT.lift (Host.readFile path)) h (h.content? path) h := rfl
  refine hfound.bind ?_
  simp only [hcontent, hread]
  exact .pure a h

theorem ends_getSettings {settings : Settings} (hsettings : HasSettings h settings) :
    ∃ h', Ends (Work.perform Reporting.getSettings) h settings h' ∧ h'.printed = h.printed := by
  obtain ⟨hallowed, hread⟩ := hsettings
  let source (_ : StatementPair) : FetchCourse := .answered ⟨[], 0⟩
  have hran : (Reporting.getSettings.under h.opened.mode).run source h.opened.store =
      (h.opened.store, .ok settings) := by
    simp only [Reporting.getSettings, Reporting.listSettings, Call.read, bind, Call.bind, Call.ofStore, Call.check,
      hread, Call.under, hallowed, Call.run, id]
  refine ⟨h.keep h.opened, ?_, rfl⟩
  have hmode : Ends (ExceptT.lift Host.storeMode) h h.opened.mode h := rfl
  refine hmode.bind ?_
  have haccess : Ends (ExceptT.lift (Host.access ((Reporting.getSettings.under h.opened.mode).run source))) h
      (.ok settings) (h.keep h.opened) := by
    show ((fun p : Store × Except Fault Settings => ((Except.ok p.2 : Except Failure (Except Fault Settings)),
      h.keep { h.opened with store := p.1 }))
      ((Reporting.getSettings.under h.opened.mode).run source h.opened.store)) = _
    rw [hran]
  exact haccess.bind (.check _)

theorem run_exportRows {rowsPath config : String} {rows : List Row} {q : ReportQuery} {settings : Settings}
    (hrows : HoldsJson h rowsPath (asList? Row.ofJson?) rows) (hquery : HoldsJson h config ReportQuery.ofJson? q)
    (hsettings : HasSettings h settings) (title? out? : Option String) : ∃ h', h'.printed = h.printed ∧
      runOn h (exportRows rowsPath .json (some config) title? out?) = runOn h' (Work.deliver out? (rowsText rows)) := by
  obtain ⟨h', hget, hprinted⟩ := ends_getSettings hsettings
  refine ⟨h', hprinted, ?_⟩
  refine ((ends_readJson hrows).run_bind _).trans ?_
  refine ((Ends.map ReportQuery.columns (ends_readJson hquery)).run_bind _).trans ?_
  refine (hget.run_bind _).trans ?_
  refine ((Ends.now h').run_bind _).trans ?_
  exact (Ends.check h').run_bind _

theorem HoldsJson.nodup_keys {path : String} {rows : List Row} (hrows : HoldsJson h path (asList? Row.ofJson?) rows) :
    ∀ r ∈ rows, r.keys.Nodup := by
  obtain ⟨text, -, hread⟩ := hrows
  obtain ⟨j, -, hread⟩ := Option.bind_eq_some_iff.mp hread
  intro r hr
  obtain ⟨v, -, hv⟩ := exists_of_asList? hread hr
  exact Row.nodup_of_ofJson? hv

/-- What a command that exports rows as JSON delivers is the table that the service renders under the same columns just
when each row has those columns' cells and no other. -/
theorem exportRows_sameTable_iff {rowsPath config : String} {rows : List Row} {q : ReportQuery} {settings : Settings}
    (hrows : HoldsJson h rowsPath (asList? Row.ofJson?) rows) (hquery : HoldsJson h config ReportQuery.ofJson? q)
    (hsettings : HasSettings h settings) (title? out? : Option String) (heading : Heading) :
    ∃ h' text rendered, h'.printed = h.printed ∧
      runOn h (exportRows rowsPath .json (some config) title? out?) = runOn h' (Work.deliver out? text) ∧
      settings.render .json heading rows q.columns = .ok (.text rendered) ∧
      (SameTable text rendered ↔ q.columns = [] ∨ ∀ r ∈ rows, r.keys = Row.keysOf q.columns) := by
  obtain ⟨h', hprinted, hrun⟩ := run_exportRows hrows hquery hsettings title? out?
  exact ⟨h', _, _, hprinted, hrun, rfl, sameTable_rowsText_iff hrows.nodup_keys⟩

structure NamesFile (path : String) : Prop where
  alone : path.splitOn "/" = [path]
  starts : path.startsWith "/" = false
  plain : path ≠ "" ∧ path ≠ "." ∧ path ≠ ".."

namespace NamesFile

variable {path : String}

theorem ofPath_eq (hpath : NamesFile path) : Trail.ofPath path = [path] := by
  have hname : Trail.isName path = true := by simp [Trail.isName, hpath.plain]
  rw [Trail.ofPath, hpath.alone, hpath.starts, if_neg Bool.false_ne_true]
  exact List.filter_eq_self.mpr (List.forall_mem_singleton.mpr hname)

theorem content?_eq (hpath : NamesFile path) : h.content? path = h.files.lookup [path] := by
  have hdevice : Device.ofTrail? [path] ≠ some .sink := by
    rw [Device.ofTrail?] <;> exact nofun
  have hfolder : Trail.namesFolder path = false := by simp [Trail.namesFolder, hpath.alone, hpath.plain]
  rw [MemoryHost.content?, hpath.ofPath_eq, if_neg hdevice, MemoryHost.file?, MemoryHost.trail?, hfolder,
    if_neg Bool.false_ne_true, hpath.ofPath_eq, MemoryHost.walk, if_neg hpath.plain.2.2]
  rfl

end NamesFile

theorem splitOn_of_one {s : String} (hfirst : String.Pos.Raw.atEnd s 0 = false) (hother : String.Pos.Raw.get s 0 ≠ '/')
    (hlast : String.Pos.Raw.atEnd s (String.Pos.Raw.next s 0) = true)
    (hall : String.Pos.Raw.extract s 0 (String.Pos.Raw.next s 0) = s) : s.splitOn "/" = [s] := by
  have hsep : ¬(String.Pos.Raw.get s 0 == String.Pos.Raw.get "/" 0) = true := by
    have hslash : String.Pos.Raw.get "/" 0 = '/' := by decide
    rwa [hslash, beq_iff_eq]
  have hnext : String.Pos.Raw.unoffsetBy 0 0 = 0 := rfl
  rw [String.splitOn, if_neg (by decide), String.splitOnAux, if_neg (by simp [hfirst]), if_neg hsep, hnext,
    String.splitOnAux, if_pos hlast, hall]
  rfl

def nameQuery : ReportQuery := ⟨"projects", [⟨"name", none, none, 0, none, false, none⟩], [], [], [], [], 0⟩

def namedRow : Row := ⟨[("name", .text "North")]⟩

def secretRow : Row := ⟨[("name", .text "North"), ("secret", .text "x")]⟩

def fileHost (rows : List Row) : MemoryHost :=
  .start [("r", (Json.list (rows.map Row.toJson)).print), ("q", nameQuery.toJson.print)] none fun _ => .nil

def plainHeading : Heading := ⟨"Report", none, ⟨⟨0⟩, .midnight⟩⟩

theorem namesFile_r : NamesFile "r" where
  alone := splitOn_of_one (by decide) (by decide) (by decide) (by decide)
  starts := String.startsWith_string_eq_false_iff.mpr (by decide)
  plain := by decide

theorem namesFile_q : NamesFile "q" where
  alone := splitOn_of_one (by decide) (by decide) (by decide) (by decide)
  starts := String.startsWith_string_eq_false_iff.mpr (by decide)
  plain := by decide

theorem fileHost_files (rows : List Row) : (fileHost rows).files =
    [(["r"], (Json.list (rows.map Row.toJson)).print), (["q"], nameQuery.toJson.print)] := by
  rw [fileHost, MemoryHost.start, List.map_cons, List.map_cons, namesFile_r.ofPath_eq, namesFile_q.ofPath_eq]
  rfl

theorem nameQuery_read (rows : List Row) : HoldsJson (fileHost rows) "q" ReportQuery.ofJson? nameQuery := by
  refine ⟨nameQuery.toJson.print, ?_, ?_⟩
  · rw [namesFile_q.content?_eq, fileHost_files]
    rfl
  · have hundated : ∀ c ∈ nameQuery.conditions, c.operand.isUndated = true := by simp [nameQuery]
    rw [within?_parse?_print _ (by decide), ReportQuery.ofJson?_toJson hundated]
    rfl

theorem rows_read {rows : List Row} (hrows : ∀ r ∈ rows, r.keys.Nodup ∧ (∀ e ∈ r.cells, e.2.ReadsFloats) ∧ r.erase = r)
    (hdepth : (Json.list (rows.map Row.toJson)).depth ≤ depthLimit) :
    HoldsJson (fileHost rows) "r" (asList? Row.ofJson?) rows := by
  refine ⟨(Json.list (rows.map Row.toJson)).print, ?_, ?_⟩
  · rw [namesFile_r.content?_eq, fileHost_files]
    rfl
  · have hread : ∀ r ∈ rows, Row.ofJson? r.toJson.reread = some (id r) := by
      intro r hr
      obtain ⟨hkeys, hfloats, hsame⟩ := hrows r hr
      rw [Row.ofJson?_reread hkeys hfloats, hsame]
      rfl
    rw [within?_parse?_print _ hdepth, asList?_reread hread, List.map_id]

theorem fileHost_settings (rows : List Row) : HasSettings (fileHost rows) .standard := ⟨rfl, rfl⟩

theorem columns_nameQuery : nameQuery.columns = [.ofKey "name"] := by
  have hname : Selection.outputKey ⟨"name", none, none, 0, none, false, none⟩ = "name" := rfl
  simp [nameQuery, ReportQuery.columns, columnsOfFields, hname]

theorem keysOf_nameQuery : Row.keysOf nameQuery.columns = ["name"] := by
  rw [columns_nameQuery]
  rfl

theorem namedRow_read : HoldsJson (fileHost [namedRow]) "r" (asList? Row.ofJson?) [namedRow] := by
  refine rows_read (List.forall_mem_singleton.mpr ⟨by decide, ?_, rfl⟩) (by decide)
  exact List.forall_mem_singleton.mpr nofun

theorem secretRow_read : HoldsJson (fileHost [secretRow]) "r" (asList? Row.ofJson?) [secretRow] := by
  refine rows_read (List.forall_mem_singleton.mpr ⟨by decide, ?_, rfl⟩) (by decide)
  exact List.forall_mem_cons.mpr ⟨nofun, List.forall_mem_singleton.mpr nofun⟩

theorem exportRows_sameTable_namedRow : ∃ text rendered,
    (runOn (fileHost [namedRow]) (exportRows "r" .json (some "q") none none)).2.printed = [text] ∧
      Settings.standard.render .json plainHeading [namedRow] nameQuery.columns = .ok (.text rendered) ∧
      SameTable text rendered := by
  obtain ⟨h', text, rendered, hprinted, hran, hrendered, hsame⟩ := exportRows_sameTable_iff namedRow_read
    (nameQuery_read [namedRow]) (fileHost_settings [namedRow]) none none plainHeading
  refine ⟨text, rendered, ?_, hrendered, hsame.mpr (.inr (List.forall_mem_singleton.mpr ?_))⟩
  · rw [hran]
    exact congrArg (text :: ·) hprinted
  · rw [keysOf_nameQuery]
    rfl

theorem exportRows_shows_secret :
    (runOn (fileHost [secretRow]) (exportRows "r" .json (some "q") none none)).2.printed = [rowsText [secretRow]] ∧
      Settings.standard.render .json plainHeading [secretRow] nameQuery.columns = .ok (.text (rowsText [namedRow])) ∧
      ¬ SameTable (rowsText [secretRow]) (rowsText [namedRow]) := by
  have hprojected : [secretRow].map (Row.project nameQuery.columns) = [namedRow] := by
    rw [columns_nameQuery]
    rfl
  obtain ⟨h', hprinted, hran⟩ := run_exportRows secretRow_read (nameQuery_read [secretRow])
    (fileHost_settings [secretRow]) none none
  refine ⟨?_, ?_, fun hsame => ?_⟩
  · rw [hran]
    exact congrArg (rowsText [secretRow] :: ·) hprinted
  · rw [← hprojected]
    rfl
  · rw [← hprojected, sameTable_rowsText_iff secretRow_read.nodup_keys, columns_nameQuery] at hsame
    obtain hnil | hkeys := hsame
    · cases hnil
    · cases hkeys secretRow (List.mem_singleton.mpr rfl)

end CommandLine

end PortfolioReports
