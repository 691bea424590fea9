import PortfolioReports.Proofs.Store.Reports
import PortfolioReports.Store.Benchmarks
import PortfolioReports.Store.Executions
import PortfolioReports.Store.Schedules
import PortfolioReports.Store.Widgets

namespace PortfolioReports.Store

/-- Each table has each identifier once, as its primary key has it. -/
structure Keyed (s : Store) : Prop where
  reports : s.UniqueIds
  executions : (s.executions.map ExecutionRow.id).Nodup
  schedules : (s.schedules.map ScheduleRow.id).Nodup
  benchmarks : (s.benchmarks.map BenchmarkRow.id).Nodup
  widgets : (s.widgets.map WidgetRow.id).Nodup

section Rows

variable {ρ : Type}

def Replaced (R : ρ → ρ → Prop) (rows rows' : List ρ) : Prop :=
  ∃ before row row' after, rows = before ++ row :: after ∧ rows' = before ++ row' :: after ∧ R row row'

def Removed (P : ρ → Prop) (rows rows' : List ρ) : Prop :=
  ∃ before row after, rows = before ++ row :: after ∧ rows' = before ++ after ∧ P row

theorem Replaced.imp {R R' : ρ → ρ → Prop} {rows rows' : List ρ} (h : Replaced R rows rows')
    (hR : ∀ row ∈ rows, ∀ row', R row row' → R' row row') : Replaced R' rows rows' := by
  obtain ⟨before, row, row', after, rfl, hrows', hrow⟩ := h
  exact ⟨before, row, row', after, rfl, hrows', hR row (by simp) row' hrow⟩

variable {rows : List ρ} {holds : ρ → Bool} {key : ρ → String} {k : String}

theorem exists_split (hnodup : (rows.map key).Nodup) (hkey : ∀ r, holds r = true → key r = k)
    (hany : rows.any holds = true) :
    ∃ before row after, rows = before ++ row :: after ∧ holds row = true ∧ ∀ r ∈ before ++ after, key r ≠ k := by
  obtain ⟨row, hmem, hrow⟩ := List.any_eq_true.mp hany
  obtain ⟨before, after, rfl⟩ := List.append_of_mem hmem
  rw [List.map_append, List.map_cons, List.nodup_middle, ← List.map_append, List.nodup_cons] at hnodup
  refine ⟨before, row, after, rfl, hrow, fun r hr hk => hnodup.1 ?_⟩
  rw [hkey row hrow, ← hk]
  exact List.mem_map_of_mem hr

theorem replaced_of_change (hnodup : (rows.map key).Nodup) (hkey : ∀ r, holds r = true → key r = k) (f : ρ → ρ)
    (hany : rows.any holds = true) :
    Replaced (fun row row' => holds row = true ∧ row' = f row) rows (change holds f rows) := by
  obtain ⟨before, row, after, rfl, hrow, hothers⟩ := exists_split hnodup hkey hany
  have hnot : ∀ r ∈ before ++ after, holds r = false := by
    intro r hr
    cases hr' : holds r with
    | false => rfl
    | true => exact absurd (hkey r hr') (hothers r hr)
  have hbefore : change holds f before = before :=
    change_of_forall_not fun r hr => hnot r (List.mem_append_left _ hr)
  have hafter : change holds f after = after :=
    change_of_forall_not fun r hr => hnot r (List.mem_append_right _ hr)
  refine ⟨before, row, f row, after, rfl, ?_, hrow, rfl⟩
  have hsplit : change holds f (before ++ row :: after) = change holds f before ++ f row :: change holds f after := by
    simp [change, hrow]
  rw [hsplit, hbefore, hafter]

theorem removed_of_filter (hnodup : (rows.map key).Nodup) (hany : (rows.any fun r => key r == k) = true) :
    Removed (fun row => key row = k) rows (rows.filter fun r => key r != k) := by
  obtain ⟨before, row, after, rfl, hrow, hothers⟩ :=
    exists_split hnodup (fun r hr => beq_iff_eq.mp hr) hany
  refine ⟨before, row, after, rfl, ?_, beq_iff_eq.mp hrow⟩
  have hkept : (before ++ after).filter (fun r => key r != k) = before ++ after :=
    List.filter_eq_self.mpr fun r hr => bne_iff_ne.mpr (hothers r hr)
  rw [List.filter_append, List.filter_cons_of_neg (by simpa using hrow), ← List.filter_append, hkept]

theorem change_of_not_any (f : ρ → ρ) (h : rows.any holds = false) : change holds f rows = rows :=
  change_of_forall_not fun r hr => Bool.eq_false_iff.mpr (List.any_eq_false.mp h r hr)

theorem filter_of_not_any (h : (rows.any fun r => key r == k) = false) : rows.filter (fun r => key r != k) = rows :=
  List.filter_eq_self.mpr fun r hr => bne_iff_ne.mpr fun hk => List.any_eq_false.mp h r hr (beq_iff_eq.mpr hk)

end Rows

end PortfolioReports.Store
