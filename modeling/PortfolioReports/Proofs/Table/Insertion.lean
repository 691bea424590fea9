import Mathlib.Data.Finset.Card
import Mathlib.Data.List.Forall2
import PortfolioReports.Proofs.Json.SortedEntries
import PortfolioReports.Proofs.Success
import PortfolioReports.Proofs.Table.Erasure

namespace PortfolioReports.Row

open Json

variable {r : Row} {key : String} {cell : Cell} {entries cells : List (String × Cell)}

theorem keys_insert (r : Row) (key : String) (cell : Cell) :
    (r.insert key cell).keys = if key ∈ r.keys then r.keys else r.keys ++ [key] :=
  map_fst_insertCell key cell r.cells

theorem lookup_insertCell (key' : String) :
    (insertCell key cell cells).lookup key' = if key' = key then some cell else cells.lookup key' := by
  induction cells with
  | nil => exact lookup_cons_eq_ite (key, cell) [] key'
  | cons e cells ih =>
    by_cases he : e.1 = key
    · rw [insertCell, if_pos he, lookup_cons_eq_ite, lookup_cons_eq_ite, he]
      by_cases hk : key' = key <;> simp [hk]
    · rw [insertCell, if_neg he, lookup_cons_eq_ite, lookup_cons_eq_ite, ih]
      by_cases hk : key' = e.1
      · rw [if_pos hk, if_pos hk, if_neg (hk ▸ he)]
      · rw [if_neg hk, if_neg hk]

theorem get?_insert (r : Row) (key : String) (cell : Cell) (key' : String) :
    (r.insert key cell).get? key' = if key' = key then some cell else r.get? key' :=
  lookup_insertCell key'

theorem get?_eq_none_iff (r : Row) (key : String) : r.get? key = none ↔ key ∉ r.keys := by
  rw [get?, List.lookup_eq_none_iff, keys, List.mem_map, not_exists]
  simp only [bne_iff_ne, not_and, ne_comm (a := key)]

theorem size_eq_card {keys : List String} (hnodup : r.keys.Nodup) (hmem : ∀ key, key ∈ r.keys ↔ key ∈ keys) :
    r.size = keys.toFinset.card := by
  have hsame : r.keys.toFinset = keys.toFinset := by
    ext key
    rw [List.mem_toFinset, List.mem_toFinset, hmem]
  rw [← hsame, List.toFinset_card_of_nodup hnodup, Row.keys, List.length_map, size]

def HasLast (entries : List (String × Cell)) (key : String) (cell : Cell) : Prop :=
  ∃ before after, entries = before ++ (key, cell) :: after ∧ key ∉ after.map Prod.fst

theorem hasLast_iff_lookup : HasLast entries key cell ↔ entries.reverse.lookup key = some cell := by
  rw [List.lookup_eq_some_iff]
  constructor
  · rintro ⟨before, after, rfl, hafter⟩
    refine ⟨after.reverse, before.reverse, by simp, fun e he => bne_iff_ne.mpr ?_⟩
    rintro rfl
    exact hafter (List.mem_map_of_mem (List.mem_reverse.mp he))
  · rintro ⟨later, earlier, heq, hlater⟩
    refine ⟨earlier.reverse, later.reverse, by simpa using congrArg List.reverse heq, fun hmem => ?_⟩
    obtain ⟨e, he, hkey⟩ := List.mem_map.mp hmem
    exact bne_iff_ne.mp (hlater e (List.mem_reverse.mp he)) hkey.symm

theorem hasLast_concat_iff {e : String × Cell} :
    HasLast (entries ++ [e]) key cell ↔ if key = e.1 then e.2 = cell else HasLast entries key cell := by
  rw [hasLast_iff_lookup, List.reverse_concat, lookup_cons_eq_ite]
  split
  · exact Option.some_inj
  · exact hasLast_iff_lookup.symm

/-- The row is a map of all that was inserted, with each key where it first came. -/
structure IsMapOf (r : Row) (entries : List (String × Cell)) : Prop where
  nodup_keys : r.keys.Nodup
  mem_keys_iff : ∀ key, key ∈ r.keys ↔ key ∈ entries.map Prod.fst
  inOrder : r.keys.Pairwise fun key key' => (entries.map Prod.fst).idxOf key < (entries.map Prod.fst).idxOf key'
  get?_eq_some_iff : ∀ key cell, r.get? key = some cell ↔ HasLast entries key cell
  get?_eq_none_iff : ∀ key, r.get? key = none ↔ key ∉ entries.map Prod.fst
  size_eq : r.size = (entries.map Prod.fst).toFinset.card

namespace IsMapOf

theorem empty : empty.IsMapOf [] where
  nodup_keys := List.nodup_nil
  mem_keys_iff _ := Iff.rfl
  inOrder := .nil
  get?_eq_some_iff _ _ := ⟨nofun, fun ⟨_, _, h, _⟩ => absurd h (by simp)⟩
  get?_eq_none_iff _ := ⟨fun _ => List.not_mem_nil, fun _ => rfl⟩
  size_eq := rfl

theorem insert (h : r.IsMapOf entries) (key : String) (cell : Cell) :
    (r.insert key cell).IsMapOf (entries ++ [(key, cell)]) := by
  have hkeys := keys_insert r key cell
  have hfirst : (entries ++ [(key, cell)]).map Prod.fst = entries.map Prod.fst ++ [key] := List.map_append
  have hnodup : (r.insert key cell).keys.Nodup := by
    rw [hkeys]
    split
    · exact h.nodup_keys
    · rename_i hnew
      exact List.concat_eq_append ▸ h.nodup_keys.concat hnew
  have hmem : ∀ key', key' ∈ (r.insert key cell).keys ↔ key' ∈ (entries ++ [(key, cell)]).map Prod.fst := by
    intro key'
    rw [hkeys, hfirst, List.mem_append, List.mem_singleton, ← h.mem_keys_iff]
    by_cases hold : key ∈ r.keys
    · rw [if_pos hold]
      exact ⟨.inl, fun hmem => hmem.elim id fun heq => heq ▸ hold⟩
    · rw [if_neg hold, List.mem_append, List.mem_singleton]
  -- a key that was there is still first where it was
  have hplace : ∀ k ∈ r.keys, (entries.map Prod.fst ++ [key]).idxOf k = (entries.map Prod.fst).idxOf k :=
    fun k hk => List.idxOf_append_of_mem ((h.mem_keys_iff k).mp hk)
  have horder : r.keys.Pairwise fun k k' =>
      (entries.map Prod.fst ++ [key]).idxOf k < (entries.map Prod.fst ++ [key]).idxOf k' :=
    h.inOrder.imp_of_mem fun hk hk' hlt => by rwa [hplace _ hk, hplace _ hk']
  refine ⟨hnodup, hmem, ?_, fun k c => ?_, fun k => ?_, size_eq_card hnodup hmem⟩
  · rw [hkeys, hfirst]
    split
    · exact horder
    · rename_i hnew
      refine List.pairwise_append.mpr ⟨horder, List.pairwise_singleton _ _, fun k hk k' hk' => ?_⟩
      rw [List.mem_singleton.mp hk', hplace k hk, List.idxOf_append_of_notMem (mt (h.mem_keys_iff key).mpr hnew)]
      exact (List.idxOf_lt_length_iff.mpr ((h.mem_keys_iff k).mp hk)).trans_le (Nat.le_add_right _ _)
  · rw [get?_insert, hasLast_concat_iff]
    split
    · exact Option.some_inj
    · exact h.get?_eq_some_iff k c
  · rw [Row.get?_eq_none_iff, hmem]

end IsMapOf

def insertAll (r : Row) (entries : List (String × Cell)) : Row := entries.foldl (fun r e => r.insert e.1 e.2) r

theorem IsMapOf.insertAll (h : r.IsMapOf entries) (inserted : List (String × Cell)) :
    (r.insertAll inserted).IsMapOf (entries ++ inserted) := by
  induction inserted generalizing r entries with
  | nil => rwa [List.append_nil]
  | cons e inserted ih =>
    rw [List.append_cons]
    exact ih (h.insert e.1 e.2)

def Decodes (f : String × Json) (e : String × Cell) : Prop := e.1 = f.1 ∧ Cell.ofJson? f.2 = some e.2

theorem ofJson?_object_eq_some_iff {fields : List (String × Json)} :
    ofJson? (.object fields) = some r ↔
      ∃ entries, List.Forall₂ Decodes fields entries ∧ r = empty.insertAll entries := by
  have hfield : ∀ (f : String × Json) e, (Cell.ofJson? f.2).map (fun c => (f.1, c)) = some e ↔ Decodes f e := by
    intro f e
    rw [Option.map_eq_some_iff]
    constructor
    · rintro ⟨c, hc, rfl⟩
      exact ⟨rfl, hc⟩
    · rintro ⟨hkey, hcell⟩
      exact ⟨e.2, hcell, by rw [← hkey]⟩
  rw [ofJson?, Option.map_eq_some_iff]
  simp only [mapM_eq_some_iff, hfield, eq_comm (b := r)]
  rfl

/-- A row is a map of what was inserted into it, from an empty row or from one that was decoded. An object is decoded by
inserting its entries one by one, and so is its text, with what is left of the cells that were written. -/
theorem isMapOf_inserted :
    (∀ inserted, (empty.insertAll inserted).IsMapOf inserted) ∧
    (∀ fields r, ofJson? (.object fields) = some r ↔
      ∃ entries, List.Forall₂ Decodes fields entries ∧ r = empty.insertAll entries) ∧
    (∀ fields r, ofJson? (.object fields) = some r → ∃ entries, List.Forall₂ Decodes fields entries ∧
      ∀ inserted, (r.insertAll inserted).IsMapOf (entries ++ inserted)) ∧
    ∀ entries : List (String × Cell), (∀ e ∈ entries, e.2.ReadsFloats) →
      (Json.object (entries.map fun e => (e.1, e.2.toJson))).depth ≤ depthLimit →
      readRow? (Json.object (entries.map fun e => (e.1, e.2.toJson))).print =
        some (empty.insertAll (entries.map fun e => (e.1, e.2.erase))) := by
  refine ⟨IsMapOf.empty.insertAll, fun _ _ => ofJson?_object_eq_some_iff, fun fields r hr => ?_, ?_⟩
  · obtain ⟨entries, hdecodes, rfl⟩ := ofJson?_object_eq_some_iff.mp hr
    exact ⟨entries, hdecodes, fun inserted => (IsMapOf.empty.insertAll entries).insertAll inserted⟩
  · intro entries hfloats hdepth
    rw [readRow?, within?_parse?_print _ hdepth, ofJson?_reread_entries hfloats]
    rfl

def datedEntries : List (String × Cell) := [("zeta", .int 1), ("alpha", .date ⟨0⟩), ("zeta", .bool true)]

theorem isMapOf_inserted_dated :
    let fields := datedEntries.map fun e => (e.1, e.2.toJson)
    let r : Row := ⟨[("zeta", .bool true), ("alpha", .text "1970-01-01")]⟩
    let inserted : List (String × Cell) := [("mid", .null), ("alpha", .int 2)]
    (∀ e ∈ datedEntries, e.2.ReadsFloats) ∧ (Json.object fields).depth ≤ depthLimit ∧
      readRow? (Json.object fields).print = some r ∧ ofJson? (.object fields) = some r ∧
      (∃ entries, List.Forall₂ Decodes fields entries ∧
        ∀ inserted, (r.insertAll inserted).IsMapOf (entries ++ inserted)) ∧
      (r.insertAll inserted).keys = ["zeta", "alpha", "mid"] := by
  intro fields r inserted
  obtain ⟨-, -, hdecoded, hwritten⟩ := isMapOf_inserted
  have hdate : Calendar.dateText ⟨0⟩ = "1970-01-01" := by decide +kernel
  have hr : ofJson? (.object fields) = some r := by
    simp only [fields, datedEntries, List.map_cons, List.map_nil, Cell.toJson, hdate]
    rfl
  have hfloats : ∀ e ∈ datedEntries, e.2.ReadsFloats := by
    simp only [datedEntries, List.forall_mem_cons]
    refine ⟨fun x hx => ?_, fun x hx => ?_, fun x hx => ?_, List.forall_mem_nil _⟩
    all_goals cases hx
  have hdepth : (Json.object fields).depth ≤ depthLimit := by decide +kernel
  refine ⟨hfloats, hdepth, ?_, hr, hdecoded fields r hr, rfl⟩
  rw [hwritten datedEntries hfloats hdepth]
  simp only [datedEntries, List.map_cons, List.map_nil, Cell.erase, hdate]
  rfl

end PortfolioReports.Row
