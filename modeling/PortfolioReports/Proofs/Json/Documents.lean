import PortfolioReports.Proofs.Json.ReadBack

namespace PortfolioReports

section Entries

variable {α : Type} {l l' : List (String × α)}

theorem insertSorted_of_forall_lt {k : String} {v : α} (h : ∀ e ∈ l, e.1 < k) :
    insertSorted k v l = l ++ [(k, v)] := by
  induction l with
  | nil => rfl
  | cons e l ih =>
    obtain ⟨hlt, hrest⟩ := List.forall_mem_cons.mp h
    have hne : k ≠ e.1 := by
      rintro rfl
      exact String.lt_irrefl e.1 hlt
    rw [insertSorted, if_neg hne, if_neg (Std.not_gt_of_lt hlt), ih hrest]
    rfl

theorem foldl_insertSorted (h : ((l ++ l').map Prod.fst).Pairwise (· < ·)) :
    l'.foldl (fun acc e => insertSorted e.1 e.2 acc) l = l ++ l' := by
  induction l' generalizing l with
  | nil => exact (List.append_nil l).symm
  | cons e l' ih =>
    rw [List.map_append, List.pairwise_append] at h
    have hbefore : ∀ a ∈ l, a.1 < e.1 := fun a ha =>
      h.2.2 a.1 (List.mem_map_of_mem ha) e.1 List.mem_cons_self
    rw [List.foldl_cons, insertSorted_of_forall_lt hbefore, ih]
    · exact List.append_assoc l [e] l'
    · rw [List.append_assoc, List.map_append, List.pairwise_append]
      exact h

theorem sortEntries_of_sorted (h : (l.map Prod.fst).Pairwise (· < ·)) : sortEntries l = l := foldl_insertSorted h

end Entries

namespace Json

/-- The reader gives back the float that was printed. A float that is not finite is printed as `null`. -/
def ReadsFloat (x : Float) : Prop := parse? (float x).print = some (float x)

theorem readsFloat_iff {x : Float} : ReadsFloat x ↔ x.isFinite = true ∧ rereadFloat x = x := by
  rw [ReadsFloat, parse?_print, reread]
  split
  · rename_i h
    simp [h]
  · rename_i h
    simp [h]

inductive IsDocument : Json → Prop where
  | null : IsDocument null
  | bool (b : Bool) : IsDocument (bool b)
  | int {n : Int} (hlow : -2 ^ 63 ≤ n) (hhigh : n < 2 ^ 64) : IsDocument (int n)
  | float {x : Float} (h : ReadsFloat x) : IsDocument (float x)
  | text (s : String) : IsDocument (text s)
  | list {items : List Json} (h : ∀ j ∈ items, IsDocument j) : IsDocument (list items)
  | object {fields : List (String × Json)} (hsorted : (fields.map Prod.fst).Pairwise (· < ·))
      (h : ∀ f ∈ fields, IsDocument f.2) : IsDocument (object fields)

theorem documents?_eq_some {items : List Json} (h : ∀ j ∈ items, j.document? = some j) :
    documents? items = some items := by
  induction items with
  | nil => rfl
  | cons j js ih =>
    obtain ⟨hj, hjs⟩ := List.forall_mem_cons.mp h
    rw [documents?, hj, ih hjs]
    rfl

theorem documentFields?_eq_some {fields : List (String × Json)} (h : ∀ f ∈ fields, f.2.document? = some f.2) :
    documentFields? fields = some fields := by
  induction fields with
  | nil => rfl
  | cons f fs ih =>
    obtain ⟨hf, hfs⟩ := List.forall_mem_cons.mp h
    rw [documentFields?, hf, ih hfs]
    rfl

theorem IsDocument.reread_eq {j : Json} (h : j.IsDocument) : j.reread = j := by
  induction h with
  | null | bool _ | text _ => rfl
  | int hlow hhigh => exact reread_int hlow hhigh
  | float hx =>
    obtain ⟨hfinite, hsame⟩ := readsFloat_iff.mp hx
    rw [reread, if_pos hfinite, hsame]
  | list _ ih =>
    rw [reread, rereadItems_eq, List.map_congr_left ih, List.map_id']
  | @object fields _ _ ih =>
    have hfields : fields.map (fun f => (f.1, f.2.reread)) = fields.map id :=
      List.map_congr_left fun f hf => Prod.ext rfl (ih f hf)
    rw [reread, rereadFields_eq, hfields, List.map_id]

theorem IsDocument.document?_eq {j : Json} (h : j.IsDocument) : j.document? = some j := by
  induction h with
  | null | bool _ | text _ | int _ _ | float _ => rfl
  | list _ ih =>
    rw [document?, documents?_eq_some ih]
    rfl
  | object hsorted _ ih =>
    rw [document?, documentFields?_eq_some ih, Option.map_some, sortEntries_of_sorted hsorted]

theorem IsDocument.document?_reread {j : Json} (h : j.IsDocument) : document? j.reread = some j := by
  rw [h.reread_eq, h.document?_eq]

end Json

end PortfolioReports
