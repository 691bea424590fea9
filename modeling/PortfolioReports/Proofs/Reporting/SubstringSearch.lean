import PortfolioReports.Proofs.Reporting.ReportPages
import PortfolioReports.Proofs.Text.Wildcard

namespace PortfolioReports

def ReportFilter.searching (search : String) (size : UInt32) : ReportFilter :=
  { ReportFilter.all with search? := some search, pageSize := size }

namespace ReportRow

def texts (r : ReportRow) : List String := r.name :: r.description?.toList

def Matches (search : String) (r : ReportRow) : Prop :=
  ∃ s ∈ r.texts, Text.Matches (Text.containing search) (Text.comparable s)

def Contains (search : String) (r : ReportRow) : Prop := ∃ s ∈ r.texts, Text.Contains search s

def IsWhole (r : ReportRow) : Prop := ∀ s ∈ r.texts, Text.IsWhole s

instance (search : String) (r : ReportRow) : Decidable (r.Contains search) := List.decidableBEx _ r.texts

instance (r : ReportRow) : Decidable r.IsWhole := List.decidableBAll _ r.texts

variable {search : String} {r : ReportRow}

theorem matches_iff : r.Matches search ↔
    (Text.found search r.name || r.description?.any (Text.found search)) = true := by
  simp only [Matches, texts, List.mem_cons, exists_eq_or_imp, Option.mem_toList, ← Text.found_iff, Bool.or_eq_true,
    Option.any_eq_true]

theorem matches_of_isEmpty (h : search.isEmpty = true) : r.Matches search := by
  rw [String.isEmpty_iff.mp h]
  have hsigns : Text.containing "" = [.many, .many] := by decide
  refine ⟨r.name, List.mem_cons_self, ?_⟩
  rw [hsigns, Text.matches_many_iff]
  exact ⟨[], List.nil_suffix, Text.matches_many_iff.mpr ⟨[], List.nil_suffix, Text.matches_nil_iff.mpr rfl⟩⟩

theorem passes_searching_iff {size : UInt32} :
    r.passes (.searching search size) = true ↔ r.isLive = true ∧ r.Matches search := by
  have hbare : r.passesBare (.searching search size) = r.isLive := by
    simp [passesBare, ReportFilter.searching, ReportFilter.all]
  have hsearch : (search.isEmpty || Text.found search r.name || r.description?.any (Text.found search)) = true ↔
      r.Matches search := by
    rw [Bool.or_assoc, Bool.or_eq_true, ← matches_iff]
    exact or_iff_right_of_imp matches_of_isEmpty
  rw [passes, hbare, Bool.and_eq_true]
  exact and_congr_right fun _ => hsearch

def named (s : String) : ReportRow := { ReportRow.ofReport (Store.draft .nil) with name := s, description? := none }

theorem forall_matches_iff :
    (∀ r : ReportRow, r.IsWhole → (r.Matches search ↔ r.Contains search)) ↔ Text.IsLiteral search := by
  rw [← Text.forall_found_iff]
  constructor
  · intro h s hs
    have hname := h (named s) (List.forall_mem_singleton.mpr hs)
    simpa only [Matches, Contains, named, texts, Option.toList_none, List.mem_singleton, exists_eq_left,
      ← Text.found_iff] using hname
  · intro h r hr
    refine exists_congr fun s => and_congr_right fun hs => ?_
    rw [← Text.found_iff]
    exact h s (hr s hs)

end ReportRow

namespace Store

/-- The pages of a search list the live reports of some kind, and no others. -/
def Finds (s : Store) (search : String) (size : UInt32) (kind : ReportRow → Prop) : Prop :=
  ∃ rows pages, s.ListsInPages (.searching search size) rows pages ∧
    ∀ r, r ∈ rows ↔ r ∈ s.reports ∧ r.isLive = true ∧ kind r

variable {s : Store} {search : String} {size : UInt32} {kind : ReportRow → Prop}

theorem ListsInPages.mem_iff_matches {rows : List ReportRow} {pages : List (List Report)}
    (h : s.ListsInPages (.searching search size) rows pages) (r : ReportRow) :
    r ∈ rows ↔ r ∈ s.reports ∧ r.isLive = true ∧ r.Matches search := by
  rw [h.perm.mem_iff, List.mem_filter, ReportRow.passes_searching_iff]

theorem finds_matches_iff (hids : s.UniqueIds) (hcount : s.reports.length < UInt32.size) :
    s.Finds search size (·.Matches search) ↔
      s.CanSearch (.searching search size) ∧ s.CanRead (.searching search size) := by
  constructor
  · rintro ⟨rows, pages, hlists, -⟩
    exact ⟨hlists.canSearch, hlists.canRead⟩
  · rintro ⟨hsearch, hread⟩
    have hpassing := (List.length_filter_le (ReportRow.passes (.searching search size)) _).trans_lt hcount
    obtain ⟨rows, pages, hlists⟩ := hread.exists_listsInPages hids hsearch hpassing
    exact ⟨rows, pages, hlists, hlists.mem_iff_matches⟩

theorem finds_iff : s.Finds search size kind ↔
    s.Finds search size (·.Matches search) ∧ ∀ r ∈ s.reports, r.isLive = true → (r.Matches search ↔ kind r) := by
  constructor
  · rintro ⟨rows, pages, hlists, hmem⟩
    refine ⟨⟨rows, pages, hlists, hlists.mem_iff_matches⟩, fun r hr hlive => ?_⟩
    have hsame := (hlists.mem_iff_matches r).symm.trans (hmem r)
    simpa only [hr, hlive, true_and] using hsame
  · rintro ⟨⟨rows, pages, hlists, hmem⟩, hsame⟩
    refine ⟨rows, pages, hlists, fun r => (hmem r).trans ?_⟩
    exact and_congr_right fun hr => and_congr_right fun hlive => hsame r hr hlive

/-- A search lists the reports that its pattern matches, and these are the ones that contain what is searched for just
when no report of the store tells the two apart. No report at all does so just when what is searched for is literal. -/
theorem finds_contains_iff_literal (search : String) (size : UInt32) :
    (∀ s : Store, s.UniqueIds → s.reports.length < UInt32.size →
      (s.Finds search size (·.Matches search) ↔
        s.CanSearch (.searching search size) ∧ s.CanRead (.searching search size))) ∧
    (∀ s : Store, s.Finds search size (·.Contains search) ↔ s.Finds search size (·.Matches search) ∧
      ∀ r ∈ s.reports, r.isLive = true → (r.Matches search ↔ r.Contains search)) ∧
    ((∀ r : ReportRow, r.IsWhole → (r.Matches search ↔ r.Contains search)) ↔ Text.IsLiteral search) :=
  ⟨fun _ => finds_matches_iff, fun _ => finds_iff, ReportRow.forall_matches_iff⟩

theorem finds_contains_iff_literal_oneDraft : oneDraft.UniqueIds ∧ oneDraft.reports.length < UInt32.size ∧
    (ReportRow.ofReport (draft .nil)).Contains "draft" ∧ oneDraft.Finds "draft" 20 (·.Contains "draft") := by
  have hids : oneDraft.UniqueIds := by decide
  have hcount : oneDraft.reports.length < UInt32.size := by decide
  have hsearch : oneDraft.CanSearch (.searching "draft" 20) := fun hlong => absurd hlong (by decide)
  have hliteral : Text.IsLiteral "draft" := by decide
  have hwhole : (ReportRow.ofReport (draft .nil)).IsWhole := by decide
  obtain ⟨hmatches, hcontains, hsame⟩ := finds_contains_iff_literal "draft" 20
  have hdraft : ∀ r ∈ oneDraft.reports, r.isLive = true → (r.Matches "draft" ↔ r.Contains "draft") :=
    List.forall_mem_singleton.mpr fun _ => hsame.mpr hliteral _ hwhole
  have hlisted := (hmatches oneDraft hids hcount).mpr ⟨hsearch, oneDraft_canRead _⟩
  exact ⟨hids, hcount, by decide, (hcontains oneDraft).mpr ⟨hlisted, hdraft⟩⟩

theorem oneDraft_foundByUnderscore : oneDraft.UniqueIds ∧
    oneDraft.listReports (.searching "_" 20) = .ok ([draft .nil], 1) ∧
    ¬(ReportRow.ofReport (draft .nil)).Contains "_" ∧ ¬oneDraft.Finds "_" 20 (·.Contains "_") := by
  have hsearch : oneDraft.CanSearch (.searching "_" 20) := fun hlong => absurd hlong (by decide)
  have hmatches : (ReportRow.ofReport (draft .nil)).Matches "_" := ReportRow.matches_iff.mpr (by decide)
  have hmissing : ¬(ReportRow.ofReport (draft .nil)).Contains "_" := by decide
  have hfits : (ReportFilter.searching "_" 20).skipped < UInt32.size := by decide
  have hlisted := oneDraft_listed (f := .searching "_" 20) (ReportRow.passes_searching_iff.mpr ⟨rfl, hmatches⟩)
  refine ⟨by decide, listReports_eq_ok hsearch hfits hlisted, hmissing, fun hfinds => ?_⟩
  have hsame := (finds_iff.mp hfinds).2 _ (List.mem_singleton_self _) rfl
  exact hmissing (hsame.mp hmatches)

end Store

end PortfolioReports
