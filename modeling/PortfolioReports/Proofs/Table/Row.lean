import Mathlib.Data.List.Induction
import Mathlib.Data.List.Nodup
import PortfolioReports.Table.Row

namespace PortfolioReports.Row

variable {key : String} {cell : Cell} {cells entries : List (String × Cell)}

theorem map_fst_insertCell (key : String) (cell : Cell) (cells : List (String × Cell)) :
    (insertCell key cell cells).map Prod.fst =
      if key ∈ cells.map Prod.fst then cells.map Prod.fst else cells.map Prod.fst ++ [key] := by
  induction cells with
  | nil => rfl
  | cons e cells ih =>
    rw [insertCell]
    by_cases he : e.1 = key
    · simp [he]
    · rw [if_neg he, List.map_cons, ih]
      by_cases hmem : key ∈ cells.map Prod.fst
      · rw [if_pos hmem, List.map_cons, if_pos (List.mem_cons_of_mem _ hmem)]
      · rw [if_neg hmem, List.map_cons, if_neg, List.cons_append]
        exact List.not_mem_cons_of_ne_of_not_mem (Ne.symm he) hmem

theorem insertCell_of_not_mem (h : key ∉ cells.map Prod.fst) : insertCell key cell cells = cells ++ [(key, cell)] := by
  induction cells with
  | nil => rfl
  | cons e cells ih =>
    rw [List.map_cons, List.mem_cons, not_or] at h
    rw [insertCell, if_neg (Ne.symm h.1), ih h.2, List.cons_append]

theorem mem_insertCell {e : String × Cell} (h : e ∈ insertCell key cell cells) : e = (key, cell) ∨ e ∈ cells := by
  induction cells with
  | nil => exact .inl (List.mem_singleton.mp h)
  | cons f cells ih =>
    rw [insertCell] at h
    split at h
    · rename_i hf
      rcases List.mem_cons.mp h with rfl | hrest
      · exact .inl (by rw [hf])
      · exact .inr (List.mem_cons_of_mem _ hrest)
    · rcases List.mem_cons.mp h with rfl | hrest
      · exact .inr List.mem_cons_self
      · exact (ih hrest).imp_right (List.mem_cons_of_mem _)

theorem ofEntries_append (entries : List (String × Cell)) (e : String × Cell) :
    ofEntries (entries ++ [e]) = (ofEntries entries).insert e.1 e.2 := by
  rw [ofEntries, List.foldl_append]
  rfl

theorem keys_ofEntries (entries : List (String × Cell)) : (ofEntries entries).keys = (entries.map Prod.fst).eraseDups := by
  induction entries using List.reverseRecOn with
  | nil => rfl
  | append_singleton entries e ih =>
    have hmem : e.1 ∈ (ofEntries entries).keys ↔ e.1 ∈ entries.map Prod.fst := by rw [ih, List.mem_eraseDups]
    rw [ofEntries_append, keys, insert, map_fst_insertCell, ← keys, List.map_append, List.eraseDups_append, ih]
    by_cases he : e.1 ∈ entries.map Prod.fst
    · rw [if_pos (ih ▸ hmem.mpr he)]
      simp [List.removeAll, he]
    · rw [if_neg (ih ▸ fun h => he (hmem.mp h))]
      simp [List.removeAll, he, List.eraseDups_cons]

theorem mem_ofEntries {e : String × Cell} (h : e ∈ (ofEntries entries).cells) : e ∈ entries := by
  induction entries using List.reverseRecOn with
  | nil => cases h
  | append_singleton entries f ih =>
    rw [ofEntries_append] at h
    rcases mem_insertCell h with rfl | hold
    · exact List.mem_append_right _ List.mem_cons_self
    · exact List.mem_append_left _ (ih hold)

theorem nodup_keys_ofEntries (entries : List (String × Cell)) : (ofEntries entries).keys.Nodup := by
  induction entries using List.reverseRecOn with
  | nil => exact List.nodup_nil
  | append_singleton entries e ih =>
    rw [ofEntries_append, keys, insert, map_fst_insertCell]
    split
    · exact ih
    · rename_i hnew
      rw [← List.concat_eq_append]
      exact ih.concat hnew

theorem ofEntries_of_nodup (h : (entries.map Prod.fst).Nodup) : ofEntries entries = ⟨entries⟩ := by
  induction entries using List.reverseRecOn with
  | nil => rfl
  | append_singleton entries e ih =>
    rw [List.map_append, List.nodup_append] at h
    have hnew : e.1 ∉ entries.map Prod.fst := fun hmem => h.2.2 e.1 hmem e.1 List.mem_cons_self rfl
    rw [ofEntries_append, ih h.1, insert, insertCell_of_not_mem hnew]

theorem ofEntries_map (f : String → Cell) (ks : List String) :
    ofEntries (ks.map fun k => (k, f k)) = ⟨ks.eraseDups.map fun k => (k, f k)⟩ := by
  have hcells : ∀ e ∈ (ofEntries (ks.map fun k => (k, f k))).cells, (e.1, f e.1) = e := by
    intro e he
    obtain ⟨k, -, rfl⟩ := List.mem_map.mp (mem_ofEntries he)
    rfl
  have hkeys := keys_ofEntries (ks.map fun k => (k, f k))
  have hks : (ks.map fun k => (k, f k)).map Prod.fst = ks := by
    rw [List.map_map]
    exact List.map_id' ks
  rw [hks] at hkeys
  have hrow : (ofEntries (ks.map fun k => (k, f k))).keys.map (fun k => (k, f k)) =
      (ofEntries (ks.map fun k => (k, f k))).cells := by
    rw [keys, List.map_map]
    exact (List.map_congr_left hcells).trans (List.map_id _)
  rw [hkeys] at hrow
  rw [hrow]

end PortfolioReports.Row
