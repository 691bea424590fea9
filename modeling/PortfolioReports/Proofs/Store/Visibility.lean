import PortfolioReports.Proofs.Store.Order

namespace PortfolioReports

def ReportRow.isShownTo (u : Uuid) (r : ReportRow) : Bool :=
  r.isLive && (r.createdBy? == some u.toText || r.visibility == Vocabulary.name Visibility.everyone)

/-- Two stores hold the same reports, in any order, among those that a user is shown. -/
def Store.AgreesFor (u : Uuid) (s t : Store) : Prop :=
  ∀ r : ReportRow, r.isShownTo u = true → (r ∈ s.reports ↔ r ∈ t.reports)

variable {u : Uuid} {f : ReportFilter} {s t : Store}

theorem Store.agreesFor_iff : s.AgreesFor u t ↔
    ∀ r ∈ s.reports ++ t.reports, r.isShownTo u = true → (r ∈ s.reports ↔ r ∈ t.reports) := by
  refine ⟨fun h r _ => h r, fun h r hr => ⟨fun hs => ?_, fun ht => ?_⟩⟩
  · exact (h r (List.mem_append_left _ hs) hr).mp hs
  · exact (h r (List.mem_append_right _ ht) hr).mpr ht

instance : Decidable (s.AgreesFor u t) := decidable_of_iff _ Store.agreesFor_iff.symm

namespace ReportRow

variable {r : ReportRow}

theorem passesBare_of_passes (h : r.passes f = true) : r.passesBare f = true := (Bool.and_eq_true_iff.mp h).1

theorem isShownTo_of_passesBare (hu : f.user? = some u) (h : r.passesBare f = true) : r.isShownTo u = true := by
  simp only [passesBare, hu, Option.all_some, Bool.and_eq_true] at h
  exact Bool.and_eq_true_iff.mpr h.1.1.1

end ReportRow

namespace Store.AgreesFor

theorem any_passesBare (h : s.AgreesFor u t) (hu : f.user? = some u) :
    s.reports.any (ReportRow.passesBare f) = t.reports.any (ReportRow.passesBare f) := by
  rw [Bool.eq_iff_iff, List.any_eq_true, List.any_eq_true]
  refine exists_congr fun r => and_congr_left fun hr => ?_
  exact h r (ReportRow.isShownTo_of_passesBare hu hr)

theorem matchingReports (h : s.AgreesFor u t) (hs : s.UniqueIds) (ht : t.UniqueIds) (hu : f.user? = some u) :
    s.matchingReports f = t.matchingReports f := by
  have hmem : ∀ r, r ∈ s.matchingReports f ↔ r ∈ t.matchingReports f := by
    intro r
    rw [mem_matchingReports, mem_matchingReports]
    refine and_congr_left fun hr => ?_
    exact h r (ReportRow.isShownTo_of_passesBare hu (ReportRow.passesBare_of_passes hr))
  refine eq_of_pairwise_place ?_ ?_ (s.pairwise_matchingReports f) (t.pairwise_matchingReports f)
  · exact (List.perm_ext_iff_of_nodup (hs.nodup_matchingReports f) (ht.nodup_matchingReports f)).mpr hmem
  · exact fun a ha b hb => hs.eq_of_place_eq (mem_matchingReports.mp ha).1 (mem_matchingReports.mp hb).1

end Store.AgreesFor

theorem Store.listReports_eq_of_agreesFor (hs : s.UniqueIds) (ht : t.UniqueIds) (hu : f.user? = some u)
    (h : s.AgreesFor u t) : s.listReports f = t.listReports f := by
  rw [listReports, listReports, h.any_passesBare hu, h.matchingReports hs ht hu]

namespace Store

def ownTotals : ReportRow where
  id := "00000000-0000-4000-8000-000000000001"
  name := "Totals"
  description? := none
  category := "custom"
  query := "\x7b\"dataset\": \"projects\", \"fields\": [\x7b\"name\": \"name\"\x7d]\x7d"
  createdBy? := some Uuid.nil.toText
  visibility := "private"
  version := 1
  isTemplate := false
  basedOn? := none
  createdAt := "2024-03-01T10:00:00Z"
  updatedAt := "2024-03-01T10:00:00Z"
  deletedAt? := none

def everyonesTotals : ReportRow :=
  { ownTotals with id := "00000000-0000-4000-8000-000000000002", createdBy? := none, visibility := "public" }

def strangersTotals : ReportRow :=
  { ownTotals with
    id := "00000000-0000-4000-8000-000000000003"
    query := ""
    createdBy? := some "00000000-0000-4000-8000-000000000009" }

def deletedTotals : ReportRow :=
  { everyonesTotals with id := "00000000-0000-4000-8000-000000000004", deletedAt? := some "2024-03-01T11:00:00Z" }

def fewTotals : Store := ⟨[ownTotals, everyonesTotals], [], [], [], [], []⟩

def manyTotals : Store := ⟨[strangersTotals, everyonesTotals, deletedTotals, ownTotals], [], [], [], [], []⟩

def searchTotals : ReportFilter := { ReportFilter.all with user? := some .nil, search? := some "total", pageSize := 1 }

theorem listReports_eq_of_agreesFor_totals : fewTotals.UniqueIds ∧ manyTotals.UniqueIds ∧
    searchTotals.user? = some Uuid.nil ∧ fewTotals.AgreesFor .nil manyTotals ∧
    fewTotals.listReports searchTotals = manyTotals.listReports searchTotals := by
  have hfew : fewTotals.UniqueIds := by decide
  have hmany : manyTotals.UniqueIds := by decide
  have hagree : fewTotals.AgreesFor .nil manyTotals := by decide
  exact ⟨hfew, hmany, rfl, hagree, listReports_eq_of_agreesFor hfew hmany rfl hagree⟩

end Store

end PortfolioReports
