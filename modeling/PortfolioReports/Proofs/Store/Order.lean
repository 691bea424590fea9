import Mathlib.Data.List.Nodup
import Mathlib.Data.Prod.Lex
import Mathlib.Data.String.Basic
import PortfolioReports.Proofs.Store.Reports
import PortfolioReports.Store.Benchmarks
import PortfolioReports.Store.Executions
import PortfolioReports.Store.Reports
import PortfolioReports.Store.Schedules

namespace PortfolioReports

section Sorting

variable {ρ κ : Type} [LinearOrder κ] {before : ρ → ρ → Bool} {place : ρ → κ}

theorem before_trans (h : ∀ a b, before a b = true ↔ place a ≤ place b) (a b c : ρ) (hab : before a b = true)
    (hbc : before b c = true) : before a c = true := by
  rw [h] at hab hbc ⊢
  exact le_trans hab hbc

theorem before_total (h : ∀ a b, before a b = true ↔ place a ≤ place b) (a b : ρ) :
    (before a b || before b a) = true := by
  rw [Bool.or_eq_true, h, h]
  exact le_total (place a) (place b)

theorem pairwise_mergeSort_place (h : ∀ a b, before a b = true ↔ place a ≤ place b) (rows : List ρ) :
    (rows.mergeSort before).Pairwise fun a b => place a ≤ place b :=
  (List.pairwise_mergeSort (before_trans h) (before_total h) rows).imp fun {a b} hab => (h a b).mp hab

theorem mergeSort_cons_place (h : ∀ a b, before a b = true ↔ place a ≤ place b) (a : ρ) (rows : List ρ) :
    (a :: rows).mergeSort before = (rows.mergeSort before).filter (fun b => !before a b) ++
      a :: (rows.mergeSort before).filter (before a) := by
  obtain ⟨l₁, l₂, hcons, hrest, hsmaller⟩ := List.mergeSort_cons (before_trans h) (before_total h) a rows
  have hlater : ∀ b ∈ l₂, before a b = true := by
    intro b hb
    have hsorted := pairwise_mergeSort_place h (a :: rows)
    rw [hcons, List.pairwise_append] at hsorted
    exact (h a b).mpr (List.rel_of_pairwise_cons hsorted.2.1 hb)
  have h₁ : l₁.filter (before a) = [] := List.filter_eq_nil_iff.mpr fun b hb => by simpa using hsmaller b hb
  have h₂ : l₂.filter (fun b => !before a b) = [] := List.filter_eq_nil_iff.mpr fun b hb => by simp [hlater b hb]
  rw [hcons, hrest, List.filter_append, List.filter_append, h₁, h₂, List.filter_eq_self.mpr hsmaller,
    List.filter_eq_self.mpr hlater, List.append_nil, List.nil_append]

theorem filter_mergeSort_place (h : ∀ a b, before a b = true ↔ place a ≤ place b) (keep : ρ → Bool) (rows : List ρ) :
    (rows.mergeSort before).filter keep = (rows.filter keep).mergeSort before := by
  induction rows with
  | nil => simp
  | cons a rows ih =>
    by_cases ha : keep a = true
    · have hcomm (p : ρ → Bool) (l : List ρ) : (l.filter p).filter keep = (l.filter keep).filter p := by
        rw [List.filter_filter, List.filter_filter]
        simp only [Bool.and_comm]
      rw [mergeSort_cons_place h, List.filter_append, List.filter_cons_of_pos ha, List.filter_cons_of_pos ha,
        mergeSort_cons_place h, hcomm, hcomm, ih]
    · obtain ⟨l₁, l₂, hcons, hrest, -⟩ := List.mergeSort_cons (before_trans h) (before_total h) a rows
      rw [hcons, List.filter_append, List.filter_cons_of_neg ha, List.filter_cons_of_neg ha, ← ih, hrest,
        List.filter_append]

theorem eq_of_pairwise_place {l₁ l₂ : List ρ} (hperm : l₁.Perm l₂)
    (hplace : ∀ a ∈ l₁, ∀ b ∈ l₁, place a = place b → a = b) (h₁ : l₁.Pairwise fun a b => place a ≤ place b)
    (h₂ : l₂.Pairwise fun a b => place a ≤ place b) : l₁ = l₂ :=
  hperm.eq_of_pairwise (fun a b ha hb hab hba => hplace a ha b (hperm.mem_iff.mpr hb) (le_antisymm hab hba)) h₁ h₂

end Sorting

theorem place_le_iff {α β : Type} [LinearOrder α] [LinearOrder β] {x y : α} {u v : β} {earlier same later : Bool}
    (hearlier : earlier = true ↔ x < y) (hsame : same = true ↔ x = y) (hlater : later = true ↔ v < u) :
    (earlier || (same && !later)) = true ↔ toLex (x, u) ≤ toLex (y, v) := by
  rw [Bool.or_eq_true, Bool.and_eq_true, Bool.not_eq_true', ← Bool.not_eq_true, hearlier, hsame, hlater, not_lt,
    Prod.Lex.toLex_le_toLex]

def ReportRow.place (r : ReportRow) : Stringᵒᵈ ×ₗ String := toLex (OrderDual.toDual r.updatedAt, r.id)

def ExecutionRow.place (e : ExecutionRow) : Stringᵒᵈ ×ₗ String := toLex (OrderDual.toDual e.triggeredAt, e.id)

def ScheduleRow.place (r : ScheduleRow) : String ×ₗ String := toLex (r.createdAt, r.id)

def optionalPlace (a : Option String) : WithBot String := a

def BenchmarkRow.indexPlace (b : BenchmarkRow) : WithBot String ×ₗ WithBot String ×ₗ Int :=
  toLex (optionalPlace b.methodology?, toLex (optionalPlace b.region?, b.year.toInt))

def BenchmarkRow.place (b : BenchmarkRow) : Intᵒᵈ ×ₗ Stringᵒᵈ :=
  toLex (OrderDual.toDual b.year.toInt, OrderDual.toDual b.updatedAt)

theorem ReportRow.listedBefore_iff (a b : ReportRow) : a.listedBefore b = true ↔ a.place ≤ b.place :=
  place_le_iff decide_eq_true_iff beq_iff_eq decide_eq_true_iff

theorem ExecutionRow.listedBefore_iff (a b : ExecutionRow) : a.listedBefore b = true ↔ a.place ≤ b.place :=
  place_le_iff decide_eq_true_iff beq_iff_eq decide_eq_true_iff

theorem ScheduleRow.listedBefore_iff (a b : ScheduleRow) : a.listedBefore b = true ↔ a.place ≤ b.place :=
  place_le_iff decide_eq_true_iff beq_iff_eq decide_eq_true_iff

theorem BenchmarkRow.newerBefore_iff (a b : BenchmarkRow) : a.newerBefore b = true ↔ a.place ≤ b.place :=
  place_le_iff (decide_eq_true_iff.trans Int32.lt_iff_toInt_lt) (beq_iff_eq.trans Int32.toInt_inj.symm)
    decide_eq_true_iff

theorem optionalBefore_iff (a b : Option String) : optionalBefore a b = true ↔ optionalPlace a < optionalPlace b := by
  cases a with
  | none =>
    cases b with
    | none => exact iff_of_false nofun (lt_irrefl _)
    | some b => exact iff_of_true rfl (WithBot.bot_lt_coe b)
  | some a =>
    cases b with
    | none => exact iff_of_false nofun (WithBot.not_lt_bot _)
    | some b => exact decide_eq_true_iff.trans WithBot.coe_lt_coe.symm

theorem BenchmarkRow.indexedBefore_iff (a b : BenchmarkRow) :
    a.indexedBefore b = true ↔ a.indexPlace ≤ b.indexPlace := by
  have hsame (x y : Option String) : optionalPlace x = optionalPlace y ↔ x = y := Iff.rfl
  simp only [indexedBefore, indexPlace, Prod.Lex.toLex_le_toLex, Bool.or_eq_true, Bool.and_eq_true, beq_iff_eq,
    optionalBefore_iff, decide_eq_true_eq, Int32.le_iff_toInt_le, hsame]

theorem ReportRow.place_lt_iff (a b : ReportRow) :
    a.place < b.place ↔ b.updatedAt < a.updatedAt ∨ a.updatedAt = b.updatedAt ∧ a.id < b.id := Prod.Lex.toLex_lt_toLex

namespace Store

theorem matchingReports_perm (s : Store) (f : ReportFilter) :
    (s.matchingReports f).Perm (s.reports.filter (ReportRow.passes f)) := List.mergeSort_perm _ _

theorem mem_matchingReports {s : Store} {f : ReportFilter} {r : ReportRow} :
    r ∈ s.matchingReports f ↔ r ∈ s.reports ∧ r.passes f = true := by
  rw [(s.matchingReports_perm f).mem_iff, List.mem_filter]

theorem pairwise_matchingReports (s : Store) (f : ReportFilter) :
    (s.matchingReports f).Pairwise fun a b => a.place ≤ b.place :=
  pairwise_mergeSort_place ReportRow.listedBefore_iff _

namespace UniqueIds

variable {s : Store}

theorem eq_of_place_eq (h : s.UniqueIds) {a b : ReportRow} (ha : a ∈ s.reports) (hb : b ∈ s.reports)
    (hplace : a.place = b.place) : a = b :=
  h.eq_of_id_eq ha hb (congrArg (fun p => (ofLex p).2) hplace)

theorem nodup_matchingReports (h : s.UniqueIds) (f : ReportFilter) : (s.matchingReports f).Nodup :=
  (s.matchingReports_perm f).nodup_iff.mpr (h.nodup.filter _)

theorem pairwise_matchingReports_lt (h : s.UniqueIds) (f : ReportFilter) :
    (s.matchingReports f).Pairwise fun a b => a.place < b.place := by
  refine ((s.pairwise_matchingReports f).and (h.nodup_matchingReports f)).imp_of_mem fun {a b} ha hb hab => ?_
  have hne : a.place ≠ b.place := fun hplace =>
    hab.2 (h.eq_of_place_eq (mem_matchingReports.mp ha).1 (mem_matchingReports.mp hb).1 hplace)
  exact lt_of_le_of_ne hab.1 hne

end UniqueIds

end Store

end PortfolioReports
