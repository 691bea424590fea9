import PortfolioReports.Proofs.Query.Stored
import PortfolioReports.Proofs.Reporting.Keeps
import PortfolioReports.Proofs.Store.Reports

namespace PortfolioReports

structure ReportQuery.IsAdmissible (q : ReportQuery) : Prop where
  storable : q.IsStorable
  admitted : q.validate = .ok ()

theorem ReportQuery.IsAdmissible.reread {q : ReportQuery} (h : q.IsAdmissible) : q.reread.IsAdmissible :=
  ⟨h.storable.reread, validate_reread h.admitted⟩

namespace ReportRow

def readQuery (r : ReportRow) : Except StoreFault ReportQuery :=
  Stored.readJson ReportQuery.shape ReportQuery.ofJson? 4 r.query

def IsAdmissible (r : ReportRow) : Prop := ∃ q : ReportQuery, r.query = q.toJson.print ∧ q.IsAdmissible

theorem IsAdmissible.readQuery {r : ReportRow} (h : r.IsAdmissible) :
    ∃ q, r.readQuery = .ok q ∧ q.IsAdmissible := by
  obtain ⟨q, htext, hq⟩ := h
  exact ⟨q.reread, by rw [ReportRow.readQuery, htext, hq.storable.readJson_print], hq.reread⟩

theorem readQuery_of_toReport {r : ReportRow} {x : Report} (h : r.toReport = .ok x) : r.readQuery = .ok x.query := by
  simp only [toReport, bind, Except.bind] at h
  repeat' split at h
  all_goals cases h
  assumption

end ReportRow

namespace Store

def HoldsAdmissible (s : Store) : Prop := ∀ r ∈ s.reports, r.IsAdmissible

variable {s : Store}

theorem HoldsAdmissible.insertReport (h : s.HoldsAdmissible) {x : Report} (hx : x.query.IsAdmissible) {s' : Store}
    (hs' : s.insertReport x = .ok s') : s'.HoldsAdmissible := by
  unfold Store.insertReport at hs'
  split at hs'
  · cases hs'
  · cases hs'
    intro r hr
    rcases List.mem_append.mp hr with hr | hr
    · exact h r hr
    · rw [List.mem_singleton.mp hr]
      exact ⟨x.query, rfl, hx⟩

theorem HoldsAdmissible.change (h : s.HoldsAdmissible) (holds : ReportRow → Bool) {f : ReportRow → ReportRow}
    (hf : ∀ r, r.IsAdmissible → (f r).IsAdmissible) :
    HoldsAdmissible { s with reports := Store.change holds f s.reports } := by
  refine List.forall_mem_map.mpr fun r hr => ?_
  split
  · exact hf r (h r hr)
  · exact h r hr

theorem HoldsAdmissible.updateReport (h : s.HoldsAdmissible) {x : Report} (hx : x.query.IsAdmissible) :
    (s.updateReport x).1.HoldsAdmissible :=
  h.change (ReportRow.isLiveWith x.id) fun _ _ => ⟨x.query, rfl, hx⟩

theorem HoldsAdmissible.deleteReport (h : s.HoldsAdmissible) (id : Uuid) (now : Calendar.Moment) :
    (s.deleteReport id now).1.HoldsAdmissible :=
  h.change (ReportRow.isLiveWith id) fun _ hr => hr

theorem HoldsAdmissible.getReport (h : s.HoldsAdmissible) {id : Uuid} {x : Report}
    (hx : s.getReport id = .ok (some x)) : x.query.IsAdmissible := by
  obtain ⟨r, hr, -, hread⟩ := of_readFirst hx
  obtain ⟨q, hq, hadmissible⟩ := (h r hr).readQuery
  rw [ReportRow.readQuery_of_toReport hread] at hq
  exact Except.ok.inj hq ▸ hadmissible

end Store

namespace Reporting

open Call

variable {id fresh : Uuid} {now : Calendar.Moment}

theorem keeps_getReport : (getReport id).Keeps Store.HoldsAdmissible fun x => x.query.IsAdmissible := by
  refine Keeps.bind (Q := fun x? => ∀ x, x? = some x → x.query.IsAdmissible) ?_ fun x? hx => .found _ hx
  refine .read fun s hs x? hx? x hx => ?_
  subst hx
  exact hs.getReport hx?

theorem keeps_insertReport {x : Report} (hx : x.query.IsAdmissible) :
    (Call.insert fun s => s.insertReport x).Keeps Store.HoldsAdmissible fun _ => True :=
  .insert fun _ hs _ hs' => hs.insertReport hx hs'

theorem keeps_createReport {r : NewReport} (h : r.query.IsStorable) :
    (createReport fresh now r).Keeps Store.HoldsAdmissible fun _ => True :=
  (Keeps.requireText _ _).bind fun _ _ => Keeps.check.bind fun _ hvalid =>
    (keeps_insertReport ⟨h, hvalid⟩).bind fun _ _ => .pure trivial

theorem keeps_checkName (name? : Option String) {valid : Prop} (hvalid : valid) :
    (match name? with
      | some name => requireText name .reportNameRequired
      | none => pure () : Call Unit).Keeps Store.HoldsAdmissible fun _ => valid := by
  cases name? with
  | none => exact .pure hvalid
  | some name => exact (Keeps.requireText _ _).mono fun _ _ => hvalid

theorem keeps_checkUpdate (u : ReportUpdate) :
    (checkUpdate u).Keeps Store.HoldsAdmissible fun _ => ∀ q, u.query? = some q → q.validate = .ok () := by
  unfold checkUpdate
  cases hquery : u.query? with
  | none => exact keeps_checkName u.name? nofun
  | some q =>
    refine Keeps.check.bind fun _ hvalid => keeps_checkName u.name? ?_
    rintro q ⟨rfl⟩
    exact hvalid

theorem keeps_updateReport {u : ReportUpdate} (h : ∀ q, u.query? = some q → q.IsStorable) :
    (updateReport id now u).Keeps Store.HoldsAdmissible fun _ => True := by
  refine keeps_getReport.bind fun report hreport => (keeps_checkUpdate u).bind fun _ hvalid => ?_
  have hrevised : (report.revise u now).query.IsAdmissible := by
    cases hquery : u.query? with
    | none => simpa [Report.revise, ReportUpdate.apply, hquery] using hreport
    | some q => simpa [Report.revise, ReportUpdate.apply, hquery] using (⟨h q hquery, hvalid q hquery⟩ : q.IsAdmissible)
  exact (Keeps.change fun s hs => hs.updateReport hrevised).bind fun _ _ =>
    (Keeps.changed _ _).bind fun _ _ => .pure trivial

theorem keeps_deleteReport : (deleteReport id now).Keeps Store.HoldsAdmissible fun _ => True :=
  (Keeps.change fun _ hs => hs.deleteReport id now).bind fun _ _ => .changed _ _

theorem keeps_cloneReport (name : String) (owner? : Option Uuid) :
    (cloneReport id fresh name owner? now).Keeps Store.HoldsAdmissible fun _ => True :=
  keeps_getReport.bind fun report hreport =>
    (keeps_insertReport (x := report.copy fresh name owner? now) hreport).bind fun _ _ => .pure trivial

end Reporting

inductive Request.WritesReport : Request → Prop where
  | create {j : Json} {r : NewReport} (h : Json.within? NewReport.ofJson? j = some r) : WritesReport (.createReport r)
  | update {j : Json} (id : Uuid) {u : ReportUpdate} (h : Json.within? ReportUpdate.ofJson? j = some u) :
      WritesReport (.updateReport id u)
  | delete (id : Uuid) : WritesReport (.deleteReport id)
  | clone (id : Uuid) (name : String) (owner? : Option Uuid) : WritesReport (.cloneReport id name owner?)

open Reporting in
theorem Request.WritesReport.keeps {request : Request} (h : request.WritesReport) (c : CallSetting) :
    (request.call c).Keeps Store.HoldsAdmissible fun _ => True := by
  cases h with
  | create h => exact (keeps_createReport (NewReport.query_isStorable h)).map fun _ _ => trivial
  | update id h => exact (keeps_updateReport fun _ => ReportUpdate.query_isStorable h).map fun _ _ => trivial
  | delete id => exact keeps_deleteReport.map fun _ _ => trivial
  | clone id name owner? => exact (keeps_cloneReport name owner?).map fun _ _ => trivial

namespace ReportQuery

/-- Both statements are written out, or both are refused in the name of the first condition that asks for OR. -/
def CompilesUnlessDisjunctive (q : ReportQuery) : Prop :=
  match q.conditions.find? Condition.isDisjunctive with
  | none => q.compile = .ok q.dataStatement ∧ q.compileCount = .ok q.countStatement
  | some c => q.compile = .error (.invalidConfig (.disjunction c.field)) ∧
      q.compileCount = .error (.invalidConfig (.disjunction c.field))

theorem compilesUnlessDisjunctive_of_validate {q : ReportQuery} (h : q.validate = .ok ()) :
    q.CompilesUnlessDisjunctive := by
  unfold CompilesUnlessDisjunctive
  obtain ⟨d, hd⟩ := validate_eq_ok_iff.mp h
  have hdataset := checkDataset_eq_ok_iff.mpr hd.isNamed
  have hselects : (q.fields.isEmpty && q.calculations.isEmpty) = false := by simp [hd.selects]
  cases hfind : q.conditions.find? Condition.isDisjunctive with
  | none =>
    have hconjunctive : ∀ c ∈ q.conditions, c.isDisjunctive = false := by simpa using hfind
    have hcompilable : q.IsCompilable := ⟨hd.isNamed, .inl hd.selects, hconjunctive⟩
    exact ⟨hcompilable.compile_eq, hcompilable.compileCount_eq⟩
  | some c =>
    have hconnectives : q.checkConnectives = .error (.invalidConfig (.disjunction c.field)) := by
      rw [checkConnectives_eq, hfind]
    constructor
    · simp only [compile, hdataset, hselects, hconnectives]
      rfl
    · simp only [compileCount, hdataset, hconnectives]
      rfl

end ReportQuery

namespace Service

theorem holdsAdmissible_run (g : Stride) {events : List ServiceEvent}
    (h : ∀ request setting, .begin request setting ∈ events → request.WritesReport) :
    ((start .empty).run g events).store.HoldsAdmissible :=
  (keeps_run g (List.forall_mem_nil _) fun request setting hmem => (h request setting hmem).keeps setting).1

end Service

namespace Store

/-- Whatever reports are made, changed, deleted and copied, the query of each stored one is read as an admitted one,
which is also what the report is served with. It has its statements, unless a condition asks for OR. -/
theorem after_queriesAdmitted (source : StatementPair → FetchCourse) {calls : List (Request × CallSetting)}
    (h : ∀ c ∈ calls, c.1.WritesReport) :
    ∀ r ∈ (empty.after source calls).reports, ∃ q, r.readQuery = .ok q ∧ (∀ x, r.toReport = .ok x → x.query = q) ∧
      q.validate = .ok () ∧ q.CompilesUnlessDisjunctive := by
  intro r hr
  have hholds : (empty.after source calls).HoldsAdmissible :=
    keeps_after (fun c hc => (h c hc).keeps c.2) source (List.forall_mem_nil _)
  obtain ⟨q, hread, hq⟩ := (hholds r hr).readQuery
  refine ⟨q, hread, fun x hx => ?_, hq.admitted, ReportQuery.compilesUnlessDisjunctive_of_validate hq.admitted⟩
  rw [ReportRow.readQuery_of_toReport hx] at hread
  exact Except.ok.inj hread

def eitherStatus : Json := .object
  [("name", .text "Either status"), ("config", .object
    [("dataset", .text "projects"), ("fields", .list [.object [("name", .text "name")]]),
     ("filters", .list [.object [("field", .text "status"), ("operator", .text "eq"), ("value", .text "active"),
       ("logic", .text "OR")]])])]

def eitherStatusReport : NewReport where
  name := "Either status"
  description? := none
  category := .custom
  query := ⟨"projects", [⟨"name", none, none, 0, none, false, none⟩], [⟨"status", .eq, .text "active", some .or⟩], [],
    [], [], 0⟩
  createdBy? := none
  visibility := .ownerOnly
  isTemplate := false

theorem eitherStatus_read : Json.within? NewReport.ofJson? eitherStatus = some eitherStatusReport := by rfl

def answerNothing : StatementPair → FetchCourse := fun _ => .notBegun

theorem after_eitherStatus_refused :
    Json.within? NewReport.ofJson? eitherStatus = some eitherStatusReport ∧
      ∃ r ∈ (empty.after answerNothing [(.createReport eitherStatusReport, atNoon)]).reports, r.isLive = true ∧
        ∃ q, r.readQuery = .ok q ∧ q.validate = .ok () ∧
          q.compile = .error (.invalidConfig (.disjunction "status")) ∧
          q.compileCount = .error (.invalidConfig (.disjunction "status")) := by
  have hstorable : eitherStatusReport.query.IsStorable := List.forall_mem_singleton.mpr ⟨rfl, by decide⟩
  refine ⟨eitherStatus_read, _, List.mem_singleton.mpr rfl, rfl, _, hstorable.readJson_print 4, ?_, ?_, ?_⟩
  · rfl
  · rfl
  · rfl

def eitherAndBack : List (Request × CallSetting) :=
  [(.createReport eitherStatusReport, atNoon),
   (.cloneReport .nil "Copy" none, { atNoon with fresh := ⟨.replicate 32 (Fin.last 15)⟩ }),
   (.updateReport .nil ⟨some "Active", none, none, some projectNames, none, none⟩, atNoon),
   (.deleteReport ⟨.replicate 32 (Fin.last 15)⟩, atNoon)]

theorem writesReport_eitherAndBack : ∀ c ∈ eitherAndBack, c.1.WritesReport := by
  have hupdate : Json.within? ReportUpdate.ofJson? (.object [("name", .text "Active"), ("config", .object
      [("dataset", .text "projects"), ("fields", .list [.object [("name", .text "name")]])])]) =
      some ⟨some "Active", none, none, some projectNames, none, none⟩ := by rfl
  simp only [eitherAndBack, List.forall_mem_cons]
  exact ⟨.create eitherStatus_read, .clone _ _ _, .update _ hupdate, .delete _, List.forall_mem_nil _⟩

theorem after_queriesAdmitted_eitherAndBack :
    (∀ r ∈ (empty.after answerNothing eitherAndBack).reports, ∃ q, r.readQuery = .ok q ∧
      (∀ x, r.toReport = .ok x → x.query = q) ∧ q.validate = .ok () ∧ q.CompilesUnlessDisjunctive) ∧
      (empty.after answerNothing eitherAndBack).reports.map (fun r => (r.name, r.isLive)) =
        [("Active", true), ("Copy", false)] :=
  ⟨after_queriesAdmitted answerNothing writesReport_eitherAndBack, by decide +kernel⟩

end Store

end PortfolioReports
