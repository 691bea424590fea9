import Mathlib.Data.List.Nodup
import Mathlib.Order.MinMax
import PortfolioReports.Dashboard.Memory

namespace PortfolioReports.Memory

variable {α : Type}

def Distinct (m : Memory α) : Prop := (m.held.map Held.key).Nodup

@[simp] theorem mem_without {k : String} {l : List (Held α)} {h : Held α} :
    h ∈ without k l ↔ h ∈ l ∧ h.key ≠ k := by
  simp [without]

@[simp] theorem mem_live {now : Nat} {l : List (Held α)} {h : Held α} :
    h ∈ live now l ↔ h ∈ l ∧ now < h.expires := by
  simp [live]

theorem nodup_sublist {l l' : List (Held α)} (hs : l'.Sublist l) (h : (l.map Held.key).Nodup) :
    (l'.map Held.key).Nodup := (hs.map _).nodup h

theorem without_sublist (k : String) (l : List (Held α)) : (without k l).Sublist l := List.filter_sublist

theorem live_sublist (now : Nat) (l : List (Held α)) : (live now l).Sublist l := List.filter_sublist

theorem eq_of_key_eq {l : List (Held α)} (hl : (l.map Held.key).Nodup) {g h : Held α} (hg : g ∈ l)
    (hh : h ∈ l) (hk : g.key = h.key) : g = h := List.inj_on_of_nodup_map hl hg hh hk

theorem find?_isSome_iff {m : Memory α} {k : String} :
    (m.find? k).isSome ↔ ∃ h ∈ m.held, h.key = k := by
  simp [find?]

theorem find?_eq_some_iff {m : Memory α} (hm : m.Distinct) {k : String} {h : Held α} :
    m.find? k = some h ↔ h ∈ m.held ∧ h.key = k := by
  constructor
  · intro hf
    exact ⟨List.mem_of_find?_eq_some hf, by simpa using List.find?_some hf⟩
  · rintro ⟨hmem, hk⟩
    obtain ⟨g, hg⟩ := Option.isSome_iff_exists.mp (find?_isSome_iff.mpr ⟨h, hmem, hk⟩)
    have hgk : g.key = k := by simpa using List.find?_some hg
    rw [hg, eq_of_key_eq hm (List.mem_of_find?_eq_some hg) hmem (hgk.trans hk.symm)]

theorem get?_eq_some_iff {m : Memory α} (hm : m.Distinct) {now : Nat} {k : String} {v : α} :
    m.get? now k = some v ↔ ∃ h ∈ m.held, h.key = k ∧ h.value = v ∧ now < h.expires := by
  simp only [get?, Option.bind_eq_some_iff, find?_eq_some_iff hm, Option.ite_none_right_eq_some,
    Option.some.injEq]
  constructor
  · rintro ⟨h, ⟨hmem, hk⟩, hlt, hv⟩
    exact ⟨h, hmem, hk, hv, hlt⟩
  · rintro ⟨h, hmem, hk, hv, hlt⟩
    exact ⟨h, ⟨hmem, hk⟩, hlt, hv⟩

theorem get?_isSome_iff {m : Memory α} (hm : m.Distinct) {now : Nat} {k : String} :
    (m.get? now k).isSome ↔ ∃ h ∈ m.held, h.key = k ∧ now < h.expires := by
  simp only [Option.isSome_iff_exists, get?_eq_some_iff hm]
  constructor
  · rintro ⟨v, h, hmem, hk, -, hlt⟩
    exact ⟨h, hmem, hk, hlt⟩
  · rintro ⟨h, hmem, hk, hlt⟩
    exact ⟨h.value, h, hmem, hk, rfl, hlt⟩

theorem mem_of_get? {m : Memory α} {now : Nat} {k : String} {v : α} (hfound : m.get? now k = some v) :
    ∃ h ∈ m.held, h.key = k ∧ h.value = v ∧ now < h.expires := by
  obtain ⟨h, hh, hvalue⟩ := Option.bind_eq_some_iff.mp hfound
  obtain ⟨hlt, hv⟩ := Option.ite_none_right_eq_some.mp hvalue
  exact ⟨h, List.mem_of_find?_eq_some hh, by simpa using List.find?_some hh, Option.some.inj hv, hlt⟩

theorem foldl_min_le (l : List (Held α)) (t : Nat) :
    l.foldl (fun t h => min t h.expires) t ≤ t ∧
      ∀ h ∈ l, l.foldl (fun t h => min t h.expires) t ≤ h.expires := by
  induction l generalizing t with
  | nil => simp
  | cons g l ih =>
    obtain ⟨hle, hmem⟩ := ih (min t g.expires)
    simp only [List.foldl_cons, List.mem_cons, forall_eq_or_imp]
    exact ⟨hle.trans (min_le_left _ _), hle.trans (min_le_right _ _), hmem⟩

theorem foldl_min_mem (l : List (Held α)) (t : Nat) :
    l.foldl (fun t h => min t h.expires) t = t ∨
      ∃ h ∈ l, l.foldl (fun t h => min t h.expires) t = h.expires := by
  induction l generalizing t with
  | nil => simp
  | cons g l ih =>
    simp only [List.foldl_cons, List.mem_cons, exists_eq_or_imp]
    rcases ih (min t g.expires) with he | ⟨h, hmem, he⟩
    · rcases min_choice t g.expires with hc | hc
      · exact .inl (he.trans hc)
      · exact .inr (.inl (he.trans hc))
    · exact .inr (.inr ⟨h, hmem, he⟩)

theorem soonest?_eq_some_iff {l : List (Held α)} {t : Nat} :
    soonest? l = some t ↔ (∃ h ∈ l, h.expires = t) ∧ ∀ h ∈ l, t ≤ h.expires := by
  cases l with
  | nil => simp [soonest?]
  | cons g l =>
    have hle := foldl_min_le l g.expires
    have hmem := foldl_min_mem l g.expires
    simp only [soonest?, Option.some.injEq, List.mem_cons, exists_eq_or_imp, forall_eq_or_imp]
    constructor
    · rintro rfl
      refine ⟨?_, hle⟩
      rcases hmem with he | ⟨h, hh, he⟩
      · exact .inl he.symm
      · exact .inr ⟨h, hh, he.symm⟩
    · rintro ⟨hex, hg, hl⟩
      refine le_antisymm ?_ ?_
      · rcases hex with rfl | ⟨h, hh, rfl⟩
        · exact hle.1
        · exact hle.2 h hh
      · rcases hmem with he | ⟨h, hh, he⟩
        · rw [he]; exact hg
        · rw [he]; exact hl h hh

theorem mem_firstOut {l : List (Held α)} {h : Held α} :
    h ∈ firstOut l ↔ h ∈ l ∧ ∀ g ∈ l, h.expires ≤ g.expires := by
  simp only [firstOut, List.mem_filter, beq_iff_eq, soonest?_eq_some_iff]
  constructor
  · rintro ⟨hl, -, hmin⟩
    exact ⟨hl, hmin⟩
  · rintro ⟨hl, hmin⟩
    exact ⟨hl, ⟨h, hl, rfl⟩, hmin⟩

theorem firstOut_ne_nil {l : List (Held α)} (hl : l ≠ []) : firstOut l ≠ [] := by
  obtain ⟨t, ht⟩ : ∃ t, soonest? l = some t := by
    cases l with
    | nil => exact absurd rfl hl
    | cons g l => exact ⟨_, rfl⟩
  obtain ⟨⟨h, hh, he⟩, hmin⟩ := soonest?_eq_some_iff.mp ht
  exact List.ne_nil_of_mem (mem_firstOut.mpr ⟨hh, fun g hg => he ▸ hmin g hg⟩)

theorem evict_spec (tie : TieBreak α) {l : List (Held α)} (hl : l ≠ []) :
    ∃ v ∈ l, (∀ g ∈ l, v.expires ≤ g.expires) ∧ evict tie l = without v.key l := by
  have hpos : 0 < (firstOut l).length := List.length_pos_iff.mpr (firstOut_ne_nil hl)
  have hlt : tie l % (firstOut l).length < (firstOut l).length := Nat.mod_lt _ hpos
  have hv : victim? tie l = some (firstOut l)[tie l % (firstOut l).length] := List.getElem?_eq_getElem hlt
  obtain ⟨hmem, hmin⟩ := mem_firstOut.mp (List.getElem_mem hlt)
  exact ⟨_, hmem, hmin, by simp [evict, hv]⟩

/-- What is held when a value is set: everything if its key is held or there is room, else what has not run
out, less the first of it to run out where that alone fills the memory. -/
theorem makeRoom_cases (m : Memory α) (tie : TieBreak α) (now : Nat) (key : String) :
    (((m.find? key).isSome ∨ m.held.length < m.config.maxItems) ∧ m.makeRoom tie now key = m.held) ∨
    ((m.find? key).isSome = false ∧ (live now m.held).length < max m.config.maxItems 1 ∧
      m.makeRoom tie now key = live now m.held) ∨
    ((m.find? key).isSome = false ∧ max m.config.maxItems 1 ≤ (live now m.held).length ∧
      ∃ v ∈ live now m.held, (∀ g ∈ live now m.held, v.expires ≤ g.expires) ∧
        m.makeRoom tie now key = without v.key (live now m.held)) := by
  by_cases hroom : (m.find? key).isSome ∨ m.held.length < m.config.maxItems
  · exact .inl ⟨hroom, by simp [makeRoom, hroom]⟩
  right
  have hnone : (m.find? key).isSome = false := by
    simpa using fun hs => hroom (.inl hs)
  have hcond : ((m.find? key).isSome || decide (m.held.length < m.config.maxItems)) = false := by
    simpa using hroom
  by_cases hfit : (live now m.held).length < m.config.maxItems
  · exact .inl ⟨hnone, by omega, by simp [makeRoom, hcond, hfit]⟩
  have he : m.makeRoom tie now key = evict tie (live now m.held) := by
    simp [makeRoom, hcond, hfit]
  by_cases hnil : live now m.held = []
  · -- a memory for no values at all, whose values have all run out
    have hlen : (live now m.held).length = 0 := by rw [hnil]; rfl
    exact .inl ⟨hnone, by omega, by rw [he, hnil]; rfl⟩
  · obtain ⟨v, hv, hmin, hev⟩ := evict_spec tie hnil
    have hpos := List.length_pos_iff.mpr hnil
    exact .inr ⟨hnone, by omega, v, hv, hmin, he.trans hev⟩

theorem makeRoom_sublist (m : Memory α) (tie : TieBreak α) (now : Nat) (key : String) :
    (m.makeRoom tie now key).Sublist m.held := by
  rcases m.makeRoom_cases tie now key with ⟨-, he⟩ | ⟨-, -, he⟩ | ⟨-, -, v, -, -, he⟩ <;> rw [he]
  · exact live_sublist _ _
  · exact (without_sublist _ _).trans (live_sublist _ _)

theorem mem_set {m : Memory α} {tie : TieBreak α} {now : Nat} {key : String} {value : α} {ttl : Span}
    {h : Held α} : h ∈ (m.set tie now key value ttl).held ↔
      h = ⟨key, value, now + m.ttlOf ttl⟩ ∨ (h ∈ m.makeRoom tie now key ∧ h.key ≠ key) := by
  simp [set]

theorem lastSweep?_le {interval started start stop t : Nat}
    (h : lastSweep? interval started start stop = some t) : t ≤ stop := by
  simp only [lastSweep?, Option.ite_none_left_eq_some, not_or, Option.some.injEq] at h
  obtain ⟨⟨-, hn, -⟩, rfl⟩ := h
  have hle := Nat.div_mul_le_self (stop - started) interval
  have hpos : interval ≤ stop - started := by
    by_contra hlt
    exact hn (Nat.div_eq_of_lt (by omega))
  have : 0 < interval := by
    by_contra hz
    exact hn (by simp [show interval = 0 by omega])
  omega

theorem sweep_spec (m : Memory α) (started start stop : Nat) :
    (m.sweep started start stop).config = m.config ∧
      (m.sweep started start stop).held.Sublist m.held ∧
      ∀ h ∈ m.held, stop < h.expires → h ∈ (m.sweep started start stop).held := by
  cases ht : lastSweep? m.config.cleanupInterval started start stop with
  | none => simp only [sweep, ht, List.Sublist.refl, true_and]; exact fun h hm _ => hm
  | some t =>
    have hle := lastSweep?_le ht
    simp only [sweep, ht, purge, mem_live]
    exact ⟨trivial, live_sublist _ _, fun h hm hlt => ⟨hm, hle.trans_lt hlt⟩⟩

theorem sweepAll_spec (m : Memory α) (sweeps : Sweeps) (start stop : Nat) :
    (m.sweepAll sweeps start stop).config = m.config ∧
      (m.sweepAll sweeps start stop).held.Sublist m.held ∧
      ∀ h ∈ m.held, stop < h.expires → h ∈ (m.sweepAll sweeps start stop).held := by
  unfold sweepAll
  induction sweeps.all generalizing m with
  | nil => exact ⟨rfl, List.Sublist.refl _, fun h hm _ => hm⟩
  | cons started rest ih =>
    obtain ⟨hc, hs, hk⟩ := m.sweep_spec started start stop
    obtain ⟨hc', hs', hk'⟩ := ih (m.sweep started start stop)
    exact ⟨hc'.trans hc, hs'.trans hs, fun h hm hlt => hk' h (hk h hm hlt) hlt⟩

end PortfolioReports.Memory
