import Mathlib.Data.List.Induction
import Mathlib.Data.List.Nodup
import Mathlib.Data.List.Perm.Basic
import Mathlib.Data.String.Basic
import PortfolioReports.Json.Basic

namespace PortfolioReports

variable {α : Type} {k : String} {v : α} {l l' : List (String × α)}

theorem mem_insertSorted_of_mem {e : String × α} (h : e ∈ insertSorted k v l) : e = (k, v) ∨ e ∈ l := by
  induction l with
  | nil => exact .inl (List.mem_singleton.mp h)
  | cons f l ih =>
    simp only [insertSorted] at h
    split at h
    · rcases List.mem_cons.mp h with rfl | hrest
      · exact .inl rfl
      · exact .inr (List.mem_cons_of_mem _ hrest)
    · split at h
      · exact List.mem_cons.mp h
      · rcases List.mem_cons.mp h with rfl | hrest
        · exact .inr List.mem_cons_self
        · exact (ih hrest).imp id (List.mem_cons_of_mem _)

theorem pairwise_insertSorted (h : (l.map Prod.fst).Pairwise (· < ·)) :
    ((insertSorted k v l).map Prod.fst).Pairwise (· < ·) := by
  induction l with
  | nil => exact List.pairwise_singleton ..
  | cons e l ih =>
    rw [List.map_cons, List.pairwise_cons] at h
    obtain ⟨hfirst, hrest⟩ := h
    simp only [insertSorted]
    split
    · rename_i heq
      exact List.pairwise_cons.mpr ⟨heq ▸ hfirst, hrest⟩
    · rename_i hne
      split
      · rename_i hlt
        refine List.pairwise_cons.mpr ⟨?_, List.pairwise_cons.mpr ⟨hfirst, hrest⟩⟩
        intro k' hk'
        rcases List.mem_cons.mp hk' with rfl | hlater
        · exact hlt
        · exact hlt.trans (hfirst k' hlater)
      · rename_i hnlt
        have hgt : e.1 < k := lt_of_le_of_ne (not_lt.mp hnlt) (Ne.symm hne)
        refine List.pairwise_cons.mpr ⟨?_, ih hrest⟩
        intro k' hk'
        obtain ⟨f, hf, rfl⟩ := List.mem_map.mp hk'
        rcases mem_insertSorted_of_mem hf with rfl | hold
        · exact hgt
        · exact hfirst f.1 (List.mem_map_of_mem hold)

theorem lookup_cons_eq_ite (e : String × α) (l : List (String × α)) (k : String) :
    (e :: l).lookup k = if k = e.1 then some e.2 else l.lookup k := by
  by_cases h : k = e.1
  · rw [if_pos h, List.lookup_cons, beq_iff_eq.mpr h]
  · rw [if_neg h, List.lookup_cons, beq_eq_false_iff_ne.mpr h]

theorem lookup_filter (l : List (String × α)) (k : String) : (l.filter fun e => e.1 == k).lookup k = l.lookup k := by
  induction l with
  | nil => rfl
  | cons e l ih =>
    by_cases h : k = e.1
    · rw [List.filter_cons_of_pos (by simp [h]), lookup_cons_eq_ite, lookup_cons_eq_ite, if_pos h, if_pos h]
    · rw [List.filter_cons_of_neg (by simp [Ne.symm h]), ih, lookup_cons_eq_ite, if_neg h]

theorem lookup_insertSorted (k' : String) :
    (insertSorted k v l).lookup k' = if k' = k then some v else l.lookup k' := by
  induction l with
  | nil => rw [insertSorted, lookup_cons_eq_ite]
  | cons e l ih =>
    simp only [insertSorted]
    split
    · rename_i heq
      simp only [lookup_cons_eq_ite, ← heq]
      split <;> rfl
    · rename_i hne
      split
      · simp only [lookup_cons_eq_ite]
      · simp only [lookup_cons_eq_ite, ih]
        -- the key stands at most at one of the two places
        by_cases h : k' = e.1
        · have hother : k' ≠ k := fun hk => hne (hk.symm.trans h)
          rw [if_pos h, if_neg hother, if_pos h]
        · rw [if_neg h, if_neg h]

theorem lookup_eq_some_iff_mem (h : (l.map Prod.fst).Nodup) : l.lookup k = some v ↔ (k, v) ∈ l := by
  induction l with
  | nil => simp
  | cons e l ih =>
    rw [List.map_cons, List.nodup_cons] at h
    obtain ⟨hfirst, hrest⟩ := h
    rw [lookup_cons_eq_ite, List.mem_cons, Prod.ext_iff]
    by_cases heq : k = e.1
    · have hnot : (k, v) ∉ l := fun hmem => hfirst (heq ▸ List.mem_map_of_mem hmem)
      simp [heq, heq ▸ hnot, eq_comm]
    · rw [if_neg heq, ih hrest]
      simp [heq]

theorem lookup_eq_of_perm (h : (l.map Prod.fst).Nodup) (hperm : l'.Perm l) : l'.lookup k = l.lookup k := by
  have h' : (l'.map Prod.fst).Nodup := (hperm.map Prod.fst).nodup_iff.mpr h
  refine Option.ext fun v => ?_
  rw [lookup_eq_some_iff_mem h', lookup_eq_some_iff_mem h, hperm.mem_iff]

theorem nodup_of_sorted (h : (l.map Prod.fst).Pairwise (· < ·)) : (l.map Prod.fst).Nodup := h.imp fun hlt => hlt.ne

theorem eq_of_sorted_of_mem_iff (h : (l.map Prod.fst).Pairwise (· < ·)) (h' : (l'.map Prod.fst).Pairwise (· < ·))
    (hmem : ∀ e, e ∈ l ↔ e ∈ l') : l = l' := by
  have hperm : l.Perm l' :=
    (List.perm_ext_iff_of_nodup (nodup_of_sorted h).of_map (nodup_of_sorted h').of_map).mpr hmem
  exact hperm.eq_of_pairwise (fun a b _ _ hab hba => absurd (hab.trans hba) (lt_irrefl a.1))
    (List.pairwise_map.mp h) (List.pairwise_map.mp h')

theorem sortEntries_concat (l : List (String × α)) (e : String × α) :
    sortEntries (l ++ [e]) = insertSorted e.1 e.2 (sortEntries l) := by
  rw [sortEntries, List.foldl_append]
  rfl

theorem pairwise_sortEntries (l : List (String × α)) : ((sortEntries l).map Prod.fst).Pairwise (· < ·) := by
  induction l using List.reverseRecOn with
  | nil => exact List.Pairwise.nil
  | append_singleton l e ih =>
    rw [sortEntries_concat]
    exact pairwise_insertSorted ih

theorem lookup_sortEntries (l : List (String × α)) (k : String) : (sortEntries l).lookup k = l.reverse.lookup k := by
  induction l using List.reverseRecOn with
  | nil => rfl
  | append_singleton l e ih =>
    rw [sortEntries_concat, lookup_insertSorted, ih, List.reverse_append, List.reverse_singleton,
      List.singleton_append, lookup_cons_eq_ite]

theorem mem_of_mem_sortEntries {e : String × α} (h : e ∈ sortEntries l) : e ∈ l := by
  induction l using List.reverseRecOn with
  | nil => cases h
  | append_singleton l f ih =>
    rw [sortEntries_concat] at h
    rcases mem_insertSorted_of_mem h with rfl | hold
    · exact List.mem_append_right l (List.mem_singleton_self _)
    · exact List.mem_append_left [f] (ih hold)

theorem mem_keys_sortEntries {k : String} : k ∈ (sortEntries l).map Prod.fst ↔ k ∈ l.map Prod.fst := by
  have hkeys : ∀ entries : List (String × α), k ∈ entries.map Prod.fst ↔ entries.lookup k ≠ none := fun entries => by
    simp only [Ne, List.lookup_eq_none_iff, not_forall, List.mem_map]
    constructor
    · rintro ⟨e, he, rfl⟩
      exact ⟨e, he, by simp⟩
    · rintro ⟨e, he, hkey⟩
      exact ⟨e, he, (by simpa using hkey : k = e.1).symm⟩
  rw [hkeys, lookup_sortEntries, ← hkeys, List.map_reverse, List.mem_reverse]

theorem sortEntries_eq_of_perm (h : (l.map Prod.fst).Nodup) (hperm : l'.Perm l) : sortEntries l' = sortEntries l := by
  have h' : (l'.map Prod.fst).Nodup := (hperm.map Prod.fst).nodup_iff.mpr h
  have hmem : ∀ {entries : List (String × α)}, (entries.map Prod.fst).Nodup →
      ∀ e, e ∈ sortEntries entries ↔ e ∈ entries := by
    intro entries hentries e
    rw [← lookup_eq_some_iff_mem (nodup_of_sorted (pairwise_sortEntries entries)), lookup_sortEntries,
      lookup_eq_of_perm hentries (List.reverse_perm entries), lookup_eq_some_iff_mem hentries]
  refine eq_of_sorted_of_mem_iff (pairwise_sortEntries l') (pairwise_sortEntries l) fun e => ?_
  rw [hmem h', hmem h, hperm.mem_iff]

end PortfolioReports
