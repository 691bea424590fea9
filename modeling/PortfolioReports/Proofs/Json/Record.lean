import Mathlib.Tactic.Common
import PortfolioReports.Json.Typed
import PortfolioReports.Proofs.Json.ReadBack

namespace PortfolioReports.Json

theorem length_eraseDups_of_nodup {l : List String} (h : l.Nodup) : l.eraseDups.length = l.length := by
  induction l with
  | nil => rfl
  | cons a l ih =>
    rw [List.nodup_cons] at h
    have hfilter : l.filter (fun b => !b == a) = l := by
      rw [List.filter_eq_self]
      intro b hb
      have hne : b ≠ a := fun heq => h.1 (heq ▸ hb)
      simpa using hne
    rw [List.eraseDups_cons, hfilter, List.length_cons, List.length_cons, ih h.2]

theorem record?_object {names : List String} {fields : List (String × Json)}
    (hfields : (fields.map Prod.fst).Sublist names) (hnames : names.Nodup) :
    record? names (object fields) = some ⟨false, fields⟩ := by
  have hknown : fields.filter (fun f => names.contains f.1) = fields := by
    rw [List.filter_eq_self]
    exact fun f hf => List.contains_iff_mem.mpr (hfields.subset (List.mem_map_of_mem hf))
  have honce := length_eraseDups_of_nodup (hnames.sublist hfields)
  rw [List.length_map] at honce
  simp only [record?, hknown, honce, if_true]

section Present

variable {α : Type} (key : String) (write : α → Json) (a? : Option α)

theorem keys_present : ((present key write a?).map Prod.fst).Sublist [key] := by
  cases a? with
  | none => exact List.nil_sublist _
  | some a => exact List.Sublist.refl _

theorem lookup_present (name : String) :
    (present key write a?).lookup name = if name == key then a?.map write else none := by
  cases a? with
  | none => simp [present]
  | some a =>
    cases h : name == key <;> simp [present, List.lookup_cons, h]

end Present

section List

variable {α β : Type} {read : Json → Option α}

theorem mapM_map_eq_some {γ : Type} {read : γ → Option α} {write : β → γ} {f : β → α} {l : List β}
    (h : ∀ b ∈ l, read (write b) = some (f b)) : (l.map write).mapM read = some (l.map f) := by
  induction l with
  | nil => rfl
  | cons b l ih =>
    rw [List.forall_mem_cons] at h
    rw [List.map_cons, List.mapM_cons, h.1, ih h.2]
    rfl

theorem exists_of_mapM_eq_some {items : List Json} {l : List α} (h : items.mapM read = some l) {a : α} (ha : a ∈ l) :
    ∃ v ∈ items, read v = some a := by
  induction items generalizing l with
  | nil =>
    cases h
    cases ha
  | cons j js ih =>
    rw [List.mapM_cons, Option.bind_eq_bind, Option.bind_eq_some_iff] at h
    obtain ⟨b, hb, h⟩ := h
    rw [Option.bind_eq_bind, Option.bind_eq_some_iff] at h
    obtain ⟨bs, hbs, h⟩ := h
    cases h
    cases List.mem_cons.mp ha with
    | inl heq => exact ⟨j, List.mem_cons_self, heq ▸ hb⟩
    | inr ha =>
      obtain ⟨v, hv, hread⟩ := ih hbs ha
      exact ⟨v, List.mem_cons_of_mem _ hv, hread⟩

theorem exists_mapM_eq_some_iff {items : List Json} :
    (∃ l, items.mapM read = some l) ↔ ∀ v ∈ items, ∃ a, read v = some a := by
  induction items with
  | nil => exact ⟨fun _ v hv => absurd hv List.not_mem_nil, fun _ => ⟨[], rfl⟩⟩
  | cons j js ih =>
    rw [List.forall_mem_cons, ← ih]
    simp only [List.mapM_cons, Option.bind_eq_bind, Option.bind_eq_some_iff]
    constructor
    · rintro ⟨_, a, ha, l, hl, -⟩
      exact ⟨⟨a, ha⟩, l, hl⟩
    · rintro ⟨⟨a, ha⟩, l, hl⟩
      exact ⟨a :: l, a, ha, l, hl, rfl⟩

theorem exists_asList?_reread_iff {write : β → Json} {l : List β} :
    (∃ l', asList? read (list (l.map write)).reread = some l') ↔ ∀ b ∈ l, ∃ a, read (write b).reread = some a := by
  rw [reread, rereadItems_eq, List.map_map]
  exact exists_mapM_eq_some_iff.trans List.forall_mem_map

theorem asList?_reread {write : β → Json} {f : β → α} {l : List β}
    (h : ∀ b ∈ l, read (write b).reread = some (f b)) : asList? read (list (l.map write)).reread = some (l.map f) := by
  rw [reread, rereadItems_eq, List.map_map]
  exact mapM_map_eq_some h

theorem asList?_reread_self {write : α → Json} (h : ∀ a, read (write a).reread = some a) (l : List α) :
    asList? read (list (l.map write)).reread = some l := by
  rw [asList?_reread fun a _ => h a]
  exact congrArg some (List.map_id' l)

theorem exists_of_asList? {j : Json} {l : List α} (h : asList? read j = some l) {a : α} (ha : a ∈ l) :
    ∃ v, v.depth < j.depth ∧ read v = some a := by
  cases j with
  | list items =>
    obtain ⟨v, hv, hread⟩ := exists_of_mapM_eq_some h ha
    have hle : v.depth ≤ depthOfItems items := depthOfItems_le_iff.mp (Nat.le_refl _) v hv
    exact ⟨v, Nat.lt_succ_of_le hle, hread⟩
  | _ => cases h

end List

theorem lookup_map_snd {β : Type} (f : α → β) (entries : List (String × α)) (name : String) :
    (entries.map fun e => (e.1, f e.2)).lookup name = (entries.lookup name).map f := by
  induction entries with
  | nil => rfl
  | cons e entries ih =>
    obtain ⟨k, a⟩ := e
    rw [List.map_cons, List.lookup_cons, List.lookup_cons, ih]
    cases name == k <;> rfl

theorem record?_reread {names : List String} {fields : List (String × Json)}
    (hfields : (fields.map Prod.fst).Sublist names) (hnames : names.Nodup) :
    ∃ r, record? names (object fields).reread = some r ∧ ∀ name, r.get? name = (fields.lookup name).map reread := by
  have hkeys : (fields.map fun f => (f.1, f.2.reread)).map Prod.fst = fields.map Prod.fst := by
    rw [List.map_map]
    rfl
  rw [reread, rereadFields_eq, record?_object (hkeys ▸ hfields) hnames]
  exact ⟨_, rfl, lookup_map_snd reread fields⟩

namespace Record

variable {α : Type} {r : Record} {name : String} {read : Json → Option α}

theorem field_eq {a : α} (j : Json) (h : r.get? name = (some j).map reread) (hread : read j.reread = some a) :
    r.field name read = some a := by
  rw [field, h, Option.map_some, Option.bind_some, hread]

theorem fieldOr_eq {default a : α} (j : Json) (h : r.get? name = (some j).map reread)
    (hread : read j.reread = some a) : r.fieldOr name read default = some a := by
  rw [fieldOr, h]
  exact hread

theorem optionalOr_eq {a? : Option α} (write : α → Json) (h : r.get? name = (a?.map write).map reread)
    (hread : ∀ a, nullable read (write a).reread = some (some a)) : r.optionalOr name read = some a? := by
  cases a? with
  | none => rw [optionalOr, fieldOr, h, Option.map_none, Option.map_none]
  | some a =>
    rw [optionalOr, fieldOr, h, Option.map_some]
    exact hread a

end Record

section Typed

variable {α : Type} [Vocabulary α]

theorem nullable_asWord?_ofWord (a : α) : Record.nullable asWord? (ofWord a).reread = some (some a) :=
  congrArg (Option.map some) (Vocabulary.ofName?_name a)

theorem asWord?_ofWord (a : α) : asWord? (ofWord a).reread = some a := Vocabulary.ofName?_name a

theorem asInt32?_reread (n : Int32) : asInt32? (int n.toInt).reread = some n := by
  have hlow := n.le_toInt
  have hhigh := n.toInt_lt
  rw [reread_int (by omega) (by omega), asInt32?, asIntIn?, if_pos ⟨hlow, n.toInt_le⟩]
  exact congrArg some n.ofInt_toInt

theorem asInt64?_reread (n : Int64) : asInt64? (int n.toInt).reread = some n := by
  have hlow := n.le_toInt
  have hhigh := n.toInt_lt
  rw [reread_int hlow (by omega), asInt64?, asIntIn?, if_pos ⟨hlow, n.toInt_le⟩]
  exact congrArg some n.ofInt_toInt

end Typed

namespace Record

variable {names : List String} {j v : Json} {r : Record} {name : String}

theorem depth_lt_of_get? (hr : j.record? names = some r) (hv : r.get? name = some v) : v.depth < j.depth := by
  obtain ⟨l₁, l₂, hlookup, -⟩ := List.lookup_eq_some_iff.mp hv
  have hmem : (name, v) ∈ r.fields := by simp [hlookup]
  cases j with
  | object fields =>
    simp only [record?] at hr
    split at hr
    · cases hr
      have hle : v.depth ≤ depthOfFields fields :=
        depthOfFields_le_iff.mp (Nat.le_refl _) _ (List.mem_filter.mp hmem).1
      rw [depth]
      omega
    · cases hr
  | list items =>
    simp only [record?] at hr
    split at hr
    · cases hr
      have hle : v.depth ≤ depthOfItems items :=
        depthOfItems_le_iff.mp (Nat.le_refl _) _ (List.of_mem_zip hmem).2
      rw [depth]
      omega
    · cases hr
  | _ => cases hr

variable {α : Type} {read : Json → Option α}

theorem of_fieldOr (hr : j.record? names = some r) {default a : α} (h : r.fieldOr name read default = some a) :
    a = default ∨ ∃ v, v.depth < j.depth ∧ read v = some a := by
  unfold fieldOr at h
  split at h
  · rename_i v hv
    exact .inr ⟨v, depth_lt_of_get? hr hv, h⟩
  · exact .inl (Option.some.inj h).symm

theorem of_optionalOr (hr : j.record? names = some r) {a : α} (h : r.optionalOr name read = some (some a)) :
    ∃ v, v.depth < j.depth ∧ read v = some a := by
  rcases of_fieldOr hr h with heq | ⟨v, hdepth, hv⟩
  · cases heq
  · unfold nullable at hv
    split at hv
    · cases hv
    · obtain ⟨b, hb, heq⟩ := Option.map_eq_some_iff.mp hv
      cases heq
      exact ⟨v, hdepth, hb⟩

end Record

end PortfolioReports.Json
