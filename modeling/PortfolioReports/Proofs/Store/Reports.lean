import Mathlib.Data.List.Nodup
import PortfolioReports.Proofs.Store.Column
import PortfolioReports.Proofs.Success
import PortfolioReports.Store.Reports

namespace PortfolioReports

namespace ReportRow

theorem id_of_toReport {r : ReportRow} {x : Report} (h : r.toReport = .ok x) {u : Uuid}
    (hid : r.id = u.toText) : x.id = u := by
  simp only [toReport, hid, Stored.readUuid_toText, bind, Except.bind] at h
  repeat' split at h
  all_goals cases h
  rfl

structure Columns (r : ReportRow) (x : Report) : Prop where
  name : x.name = r.name
  description : x.description? = r.description?
  category : Vocabulary.name x.category = r.category
  query : Stored.readJson ReportQuery.shape ReportQuery.ofJson? 4 r.query = .ok x.query
  visibility : Vocabulary.name x.visibility = r.visibility
  version : x.version = r.version
  isTemplate : x.isTemplate = r.isTemplate

theorem columns_of_toReport {r : ReportRow} {x : Report} (h : r.toReport = .ok x) : r.Columns x := by
  simp only [toReport, bind_eq_ok_iff] at h
  obtain ⟨id, -, category, hcategory, query, hquery, createdBy?, -, visibility, hvisibility, basedOn?, -, createdAt, -,
    updatedAt, -, deletedAt?, -, h⟩ := h
  cases h
  exact ⟨rfl, rfl, Stored.name_of_readWord hcategory, hquery, Stored.name_of_readWord hvisibility, rfl, rfl⟩

end ReportRow

namespace Store

theorem id_changed {holds : ReportRow → Bool} {f : ReportRow → ReportRow} (hf : ∀ r, (f r).id = r.id) (r : ReportRow) :
    (if holds r then f r else r).id = r.id := by
  split
  · exact hf r
  · rfl

theorem hasReport_change (s : Store) (holds : ReportRow → Bool) {f : ReportRow → ReportRow}
    (hf : ∀ r, (f r).id = r.id) (id : String) :
    Store.hasReport { s with reports := change holds f s.reports } id = s.hasReport id := by
  simp [hasReport, change, Function.comp_def, id_changed hf]

theorem hasReport_append (s : Store) (r : ReportRow) {id : String} (h : s.hasReport id = true) :
    Store.hasReport { s with reports := s.reports ++ [r] } id = true := by
  simp only [hasReport, List.any_append, Bool.or_eq_true] at h ⊢
  exact .inl h

def UniqueIds (s : Store) : Prop := (s.reports.map ReportRow.id).Nodup

instance (s : Store) : Decidable s.UniqueIds := inferInstanceAs (Decidable (List.Nodup _))

theorem UniqueIds.nodup {s : Store} (h : s.UniqueIds) : s.reports.Nodup := List.Nodup.of_map _ h

theorem UniqueIds.eq_of_id_eq {s : Store} (h : s.UniqueIds) {a b : ReportRow} (ha : a ∈ s.reports) (hb : b ∈ s.reports)
    (hid : a.id = b.id) : a = b := List.inj_on_of_nodup_map h ha hb hid

theorem not_mem_ids_of_hasReport {s : Store} {id : String} (h : s.hasReport id ≠ true) :
    id ∉ s.reports.map ReportRow.id := by
  rintro hid
  obtain ⟨r, hr, rfl⟩ := List.mem_map.mp hid
  exact h (List.any_eq_true.mpr ⟨r, hr, beq_self_eq_true _⟩)

def reportsOf (s : Store) (u : Uuid) : List ReportRow := s.reports.filter fun r => r.id == u.toText

variable {s : Store} {u : Uuid}

theorem hasReport_iff : s.hasReport u.toText = true ↔ s.reportsOf u ≠ [] := by
  simp [hasReport, reportsOf, List.filter_eq_nil_iff]

theorem any_isLiveWith (s : Store) (u : Uuid) :
    s.reports.any (ReportRow.isLiveWith u) = (s.reportsOf u).any ReportRow.isLive := by
  rw [reportsOf, List.any_filter]
  congr 1
  funext r
  exact Bool.and_comm ..

theorem getReport_eq (s : Store) (u : Uuid) :
    s.getReport u = readFirst ReportRow.isLive ReportRow.toReport (s.reportsOf u) := by
  have hfind : s.reports.find? (ReportRow.isLiveWith u) = (s.reportsOf u).find? ReportRow.isLive := by
    rw [reportsOf, List.find?_filter]
    congr 1
    funext r
    exact Bool.eq_iff_iff.mpr (by simp [ReportRow.isLiveWith, and_comm])
  rw [getReport, readFirst, readFirst, hfind]

theorem of_getReport {x : Report} (h : s.getReport u = .ok (some x)) :
    ∃ r ∈ s.reportsOf u, r.isLive = true ∧ r.toReport = .ok x ∧ x.id = u := by
  rw [getReport_eq] at h
  obtain ⟨r, hr, hlive, hread⟩ := of_readFirst h
  have hid : r.id = u.toText := by simpa [reportsOf] using (List.mem_filter.mp hr).2
  exact ⟨r, hr, hlive, hread, ReportRow.id_of_toReport hread hid⟩

theorem hasReport_of_getReport {x : Report} (h : s.getReport u = .ok (some x)) : s.hasReport x.id.toText = true := by
  obtain ⟨r, hr, -, -, hid⟩ := of_getReport h
  rw [hid]
  exact hasReport_iff.mpr (List.ne_nil_of_mem hr)

theorem reportsOf_change {s' : Store} {holds : ReportRow → Bool} {f : ReportRow → ReportRow}
    (h : s'.reports = change holds f s.reports) (hf : ∀ r, (f r).id = r.id) (u : Uuid) :
    s'.reportsOf u = change holds f (s.reportsOf u) := by
  simp only [reportsOf, h, change, List.filter_map, Function.comp_def, id_changed hf]

theorem change_of_forall_not {ρ : Type} {holds : ρ → Bool} {f : ρ → ρ} {rows : List ρ}
    (h : ∀ r ∈ rows, holds r = false) : change holds f rows = rows := by
  have hsame : ∀ r ∈ rows, (if holds r then f r else r) = r := by
    intro r hr
    rw [h r hr, if_neg Bool.false_ne_true]
  rw [change, List.map_congr_left hsame, List.map_id']

end Store

end PortfolioReports
