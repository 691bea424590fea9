import Mathlib.Data.List.Induction
import PortfolioReports.Proofs.Memory.Room

namespace PortfolioReports

inductive MemoryOp (α : Type) where
  | set (tie : TieBreak α) (key : String) (value : α) (ttl : Span)
  | get (key : String)
  | erase (key : String)
  | clear
  | purge
  | sweep (sweeps : Sweeps) (start : Nat)

structure MemoryEvent (α : Type) where
  now : Nat
  op : MemoryOp α

variable {α : Type}

namespace Memory

def apply (m : Memory α) (e : MemoryEvent α) : Memory α :=
  match e.op with
  | .set tie key value ttl => m.set tie e.now key value ttl
  | .get _ => m
  | .erase key => m.erase key
  | .clear => m.clear
  | .purge => m.purge e.now
  | .sweep sweeps start => m.sweepAll sweeps start e.now

def run (m : Memory α) (events : List (MemoryEvent α)) : Memory α := events.foldl apply m

def Drops (m m' : Memory α) (now : Nat) (key : String) : Prop :=
  (m.get? now key).isSome ∧ m'.get? now key = none

def Touches (m : Memory α) (e : MemoryEvent α) (key : String) : Prop :=
  match e.op with
  | .set _ k _ _ => k = key ∨ m.Drops (m.apply e) e.now key
  | .erase k => k = key
  | .clear => True
  | .get _ | .purge | .sweep .. => False

/-- A value was set under a key, was not touched since, and has not run out. -/
def Remembers (config : CacheConfig) (events : List (MemoryEvent α)) (now : Nat) (key : String) (value : α) :
    Prop :=
  ∃ before t tie ttl after, events = before ++ ⟨t, .set tie key value ttl⟩ :: after ∧
    now < t + (if ttl = 0 then config.defaultTtl else ttl) ∧
    ∀ earlier e later, after = earlier ++ e :: later →
      ¬ ((empty config).run (before ++ ⟨t, .set tie key value ttl⟩ :: earlier)).Touches e key

theorem run_append (m : Memory α) (events events' : List (MemoryEvent α)) :
    m.run (events ++ events') = (m.run events).run events' := List.foldl_append

theorem run_concat (m : Memory α) (events : List (MemoryEvent α)) (e : MemoryEvent α) :
    m.run (events ++ [e]) = (m.run events).apply e := m.run_append events [e]

theorem apply_config (m : Memory α) (e : MemoryEvent α) : (m.apply e).config = m.config := by
  obtain ⟨now, op⟩ := e
  cases op with
  | sweep sweeps start => exact (m.sweepAll_spec sweeps start now).1
  | _ => rfl

theorem Distinct.apply {m : Memory α} (hm : m.Distinct) (e : MemoryEvent α) : (m.apply e).Distinct := by
  obtain ⟨now, op⟩ := e
  cases op with
  | set tie key value ttl =>
    have hs : (without key (m.makeRoom tie now key)).Sublist m.held :=
      (without_sublist _ _).trans (m.makeRoom_sublist tie now key)
    refine List.nodup_cons.mpr ⟨?_, nodup_sublist hs hm⟩
    simp only [List.mem_map, mem_without, not_exists, not_and]
    exact fun h hh he => hh.2 he
  | get key => exact hm
  | erase key => exact nodup_sublist (without_sublist _ _) hm
  | clear => exact List.nodup_nil
  | purge => exact nodup_sublist (live_sublist _ _) hm
  | sweep sweeps start => exact nodup_sublist (m.sweepAll_spec sweeps start now).2.1 hm

theorem without_makeRoom_length_lt (m : Memory α) (tie : TieBreak α) (now : Nat) (key : String)
    (hsize : m.held.length ≤ max m.config.maxItems 1) :
    (without key (m.makeRoom tie now key)).length < max m.config.maxItems 1 := by
  have hle := (without_sublist key (m.makeRoom tie now key)).length_le
  have hlive := (live_sublist now m.held).length_le
  rcases m.makeRoom_cases tie now key with ⟨hroom, he⟩ | ⟨-, hlt, he⟩ | ⟨-, hfull, v, hv, -, he⟩
  · rw [he] at hle ⊢
    rcases hroom with hheld | hlt
    · obtain ⟨h, hmem, hk⟩ := find?_isSome_iff.mp hheld
      have hlt : (without key m.held).length < m.held.length :=
        List.length_filter_lt_length_iff_exists.mpr ⟨h, hmem, by simp [hk]⟩
      omega
    · omega
  · rw [he] at hle ⊢
    omega
  · rw [he] at hle ⊢
    have hlt : (without v.key (live now m.held)).length < (live now m.held).length :=
      List.length_filter_lt_length_iff_exists.mpr ⟨v, hv, by simp⟩
    omega

theorem size_apply_le {m : Memory α} (hsize : m.size ≤ max m.config.maxItems 1) (e : MemoryEvent α) :
    (m.apply e).size ≤ max m.config.maxItems 1 := by
  obtain ⟨now, op⟩ := e
  cases op with
  | set tie key value ttl => exact m.without_makeRoom_length_lt tie now key hsize
  | get key => exact hsize
  | erase key => exact (without_sublist key m.held).length_le.trans hsize
  | clear => exact Nat.zero_le _
  | purge => exact (live_sublist now m.held).length_le.trans hsize
  | sweep sweeps start => exact (m.sweepAll_spec sweeps start now).2.1.length_le.trans hsize

theorem get?_eq_of_keeps {m m' : Memory α} (hm : m.Distinct) (hm' : m'.Distinct) {now : Nat}
    (hs : m'.held.Sublist m.held) (hk : ∀ h ∈ m.held, now < h.expires → h ∈ m'.held) (key : String) :
    m'.get? now key = m.get? now key := by
  apply Option.ext
  intro v
  rw [get?_eq_some_iff hm, get?_eq_some_iff hm']
  constructor
  · rintro ⟨h, hmem, hkey, hv, hlt⟩
    exact ⟨h, hs.subset hmem, hkey, hv, hlt⟩
  · rintro ⟨h, hmem, hkey, hv, hlt⟩
    exact ⟨h, hk h hmem hlt, hkey, hv, hlt⟩

theorem get?_set_of_ne {m : Memory α} (hm : m.Distinct) {tie : TieBreak α} {t now : Nat} {k key : String}
    {v value : α} {ttl : Span} (htime : t ≤ now) (hne : key ≠ k) :
    (m.set tie t key value ttl).get? now k = some v ↔
      ¬ m.Drops (m.set tie t key value ttl) t k ∧ m.get? now k = some v := by
  have hm' : (m.set tie t key value ttl).Distinct := hm.apply ⟨t, .set tie key value ttl⟩
  have hback : ∀ h ∈ (m.set tie t key value ttl).held, h.key = k → h ∈ m.held := by
    intro h hmem hk
    rcases mem_set.mp hmem with rfl | ⟨hroom, -⟩
    · exact absurd hk hne
    · exact (m.makeRoom_sublist tie t key).subset hroom
  rw [get?_eq_some_iff hm', get?_eq_some_iff hm]
  constructor
  · rintro ⟨h, hmem, hk, hv, hlt⟩
    refine ⟨fun hdrop => ?_, h, hback h hmem hk, hk, hv, hlt⟩
    have hfound : (m.set tie t key value ttl).get? t k = some v :=
      (get?_eq_some_iff hm').mpr ⟨h, hmem, hk, hv, htime.trans_lt hlt⟩
    rw [hdrop.2] at hfound
    cases hfound
  · rintro ⟨hkept, h, hmem, hk, hv, hlt⟩
    have hfound : (m.get? t k).isSome := (get?_isSome_iff hm).mpr ⟨h, hmem, hk, htime.trans_lt hlt⟩
    have hstill : ((m.set tie t key value ttl).get? t k).isSome := by
      by_contra hgone
      exact hkept ⟨hfound, by simpa using hgone⟩
    obtain ⟨g, hg, hgk, -⟩ := (get?_isSome_iff hm').mp hstill
    have hgh : g = h := eq_of_key_eq hm (hback g hg hgk) hmem (hgk.trans hk.symm)
    exact ⟨h, hgh ▸ hg, hk, hv, hlt⟩

theorem get?_set_self {m : Memory α} (hm : m.Distinct) {tie : TieBreak α} {t now : Nat} {key : String}
    {v value : α} {ttl : Span} :
    (m.set tie t key value ttl).get? now key = some v ↔ value = v ∧ now < t + m.ttlOf ttl := by
  have hm' : (m.set tie t key value ttl).Distinct := hm.apply ⟨t, .set tie key value ttl⟩
  rw [get?_eq_some_iff hm']
  constructor
  · rintro ⟨h, hmem, hk, hv, hlt⟩
    rcases mem_set.mp hmem with rfl | ⟨-, hne⟩
    · exact ⟨hv, hlt⟩
    · exact absurd hk hne
  · rintro ⟨hv, hlt⟩
    exact ⟨_, mem_set.mpr (.inl rfl), rfl, hv, hlt⟩

theorem get?_apply {m : Memory α} (hm : m.Distinct) (e : MemoryEvent α) {now : Nat} (htime : e.now ≤ now)
    {k : String} {v : α} :
    (m.apply e).get? now k = some v ↔
      (∃ tie ttl, e.op = .set tie k v ttl ∧ now < e.now + m.ttlOf ttl) ∨
        (¬ m.Touches e k ∧ m.get? now k = some v) := by
  have hm' := hm.apply e
  obtain ⟨t, op⟩ := e
  cases op with
  | set tie key value ttl =>
    by_cases hk : key = k
    · subst hk
      simp only [apply, get?_set_self hm, Touches, true_or, not_true_eq_false, false_and, or_false,
        MemoryOp.set.injEq, true_and]
      constructor
      · rintro ⟨rfl, hlt⟩
        exact ⟨tie, ttl, ⟨rfl, rfl, rfl⟩, hlt⟩
      · rintro ⟨_, _, ⟨rfl, rfl, rfl⟩, hlt⟩
        exact ⟨rfl, hlt⟩
    · simp only [apply, get?_set_of_ne hm htime hk, Touches, MemoryOp.set.injEq, hk, false_and, and_false,
        exists_false, false_or]
  | get key => simp [apply, Touches]
  | erase key =>
    rw [get?_eq_some_iff hm', get?_eq_some_iff hm]
    simp only [apply, erase, mem_without, Touches, reduceCtorEq, false_and, exists_false, false_or]
    constructor
    · rintro ⟨h, ⟨hmem, hne⟩, rfl, hv, hlt⟩
      exact ⟨Ne.symm hne, h, hmem, rfl, hv, hlt⟩
    · rintro ⟨hne, h, hmem, rfl, hv, hlt⟩
      exact ⟨h, ⟨hmem, Ne.symm hne⟩, rfl, hv, hlt⟩
  | clear => simp [apply, clear, Touches, get?, find?]
  | purge =>
    have hkeep : ∀ h ∈ m.held, now < h.expires → h ∈ (m.purge t).held :=
      fun h hmem hlt => mem_live.mpr ⟨hmem, htime.trans_lt hlt⟩
    rw [get?_eq_of_keeps hm hm' (live_sublist t m.held) hkeep]
    simp [Touches]
  | sweep sweeps start =>
    obtain ⟨-, hs, hkeep⟩ := m.sweepAll_spec sweeps start t
    rw [get?_eq_of_keeps hm hm' hs fun h hmem hlt => hkeep h hmem (htime.trans_lt hlt)]
    simp [Touches]

theorem run_config (m : Memory α) (events : List (MemoryEvent α)) : (m.run events).config = m.config := by
  induction events generalizing m with
  | nil => rfl
  | cons e rest ih => exact (ih (m.apply e)).trans (m.apply_config e)

theorem Distinct.run {m : Memory α} (hm : m.Distinct) (events : List (MemoryEvent α)) :
    (m.run events).Distinct := by
  induction events generalizing m with
  | nil => exact hm
  | cons e rest ih => exact ih (hm.apply e)

theorem distinct_empty (config : CacheConfig) : (empty config : Memory α).Distinct := List.nodup_nil

theorem size_run_le {m : Memory α} (hsize : m.size ≤ max m.config.maxItems 1)
    (events : List (MemoryEvent α)) : (m.run events).size ≤ max m.config.maxItems 1 := by
  induction events generalizing m with
  | nil => exact hsize
  | cons e rest ih =>
    have h := ih (m := m.apply e) (by rw [m.apply_config]; exact size_apply_le hsize e)
    rwa [m.apply_config] at h

theorem not_remembers_nil {config : CacheConfig} {now : Nat} {key : String} {value : α} :
    ¬ Remembers config [] now key value := by
  rintro ⟨before, t, tie, ttl, after, he, -⟩
  simp at he

theorem remembers_concat {config : CacheConfig} {events : List (MemoryEvent α)} {e : MemoryEvent α}
    {now : Nat} {key : String} {value : α} :
    Remembers config (events ++ [e]) now key value ↔
      (∃ tie ttl, e.op = .set tie key value ttl ∧
        now < e.now + (if ttl = 0 then config.defaultTtl else ttl)) ∨
      (¬ ((empty config).run events).Touches e key ∧ Remembers config events now key value) := by
  constructor
  · rintro ⟨before, t, tie, ttl, after, he, hlt, hkept⟩
    rcases List.eq_nil_or_concat after with rfl | ⟨after, last, rfl⟩
    · obtain ⟨-, hlast⟩ := List.append_inj' he rfl
      obtain rfl : e = ⟨t, .set tie key value ttl⟩ := by simpa using hlast
      exact .inl ⟨tie, ttl, rfl, hlt⟩
    · rw [List.concat_eq_append, ← List.cons_append, ← List.append_assoc] at he
      obtain ⟨rfl, hlast⟩ := List.append_inj' he rfl
      obtain rfl : e = last := by simpa using hlast
      refine .inr ⟨by simpa using hkept after e [] (by simp), before, t, tie, ttl, after, rfl, hlt, ?_⟩
      rintro earlier e' later rfl
      exact hkept earlier e' (later ++ [e]) (by simp)
  · rintro (⟨tie, ttl, hop, hlt⟩ | ⟨huntouched, before, t, tie, ttl, after, rfl, hlt, hkept⟩)
    · refine ⟨events, e.now, tie, ttl, [], ?_, hlt, by simp⟩
      rw [← hop]
    · refine ⟨before, t, tie, ttl, after ++ [e], by simp, hlt, ?_⟩
      intro earlier e' later hsplit
      rcases List.eq_nil_or_concat later with rfl | ⟨later, last, rfl⟩
      · obtain ⟨rfl, hlast⟩ := List.append_inj' hsplit rfl
        obtain rfl : e = e' := by simpa using hlast
        simpa using huntouched
      · rw [List.concat_eq_append, ← List.cons_append, ← List.append_assoc] at hsplit
        obtain ⟨rfl, -⟩ := List.append_inj' hsplit rfl
        exact hkept earlier e' later rfl

theorem get?_run {config : CacheConfig} {events : List (MemoryEvent α)} {now : Nat}
    (hnow : ∀ e ∈ events, e.now ≤ now) {key : String} {value : α} :
    ((empty config).run events).get? now key = some value ↔ Remembers config events now key value := by
  induction events using List.reverseRecOn with
  | nil =>
    simp only [not_remembers_nil, iff_false]
    simp [run, empty, get?, find?]
  | append_singleton events e ih =>
    have hm : ((empty config).run events : Memory α).Distinct := (distinct_empty config).run events
    have hconfig : ((empty config).run events : Memory α).config = config := run_config _ events
    rw [run_concat, get?_apply hm e (hnow e (by simp)), remembers_concat,
      ih fun e' he' => hnow e' (by simp [he'])]
    simp only [ttlOf, hconfig]

theorem held_of_drops_set {m : Memory α} (hm : m.Distinct) {tie : TieBreak α} {now : Nat} {key k : String}
    {value : α} {ttl : Span} (hne : k ≠ key) (hdrop : m.Drops (m.set tie now key value ttl) now k) :
    m.find? key = none ∧ max m.config.maxItems 1 ≤ (live now m.held).length ∧
      ∃ h, m.find? k = some h ∧ (∀ g ∈ live now m.held, h.expires ≤ g.expires) ∧
        m.makeRoom tie now key = without k (live now m.held) := by
  obtain ⟨hfound, hgone⟩ := hdrop
  obtain ⟨h, hmem, hk, hlt⟩ := (get?_isSome_iff hm).mp hfound
  have hm' : (m.set tie now key value ttl).Distinct := hm.apply ⟨now, .set tie key value ttl⟩
  have hout : h ∉ m.makeRoom tie now key := by
    intro hroom
    have hstill := (get?_isSome_iff hm').mpr ⟨h, mem_set.mpr (.inr ⟨hroom, hk ▸ hne⟩), hk, hlt⟩
    rw [hgone] at hstill
    cases hstill
  have hlive : h ∈ live now m.held := mem_live.mpr ⟨hmem, hlt⟩
  rcases m.makeRoom_cases tie now key with ⟨-, he⟩ | ⟨-, -, he⟩ | ⟨hnone, hfull, v, hv, hmin, he⟩
  · exact absurd (he ▸ hmem) hout
  · exact absurd (he ▸ hlive) hout
  · have hkey : h.key = v.key := by
      by_contra hother
      exact hout (he ▸ mem_without.mpr ⟨hlive, hother⟩)
    have hv' : h = v := eq_of_key_eq hm hmem (mem_live.mp hv).1 hkey
    refine ⟨by simpa using hnone, hfull, h, (find?_eq_some_iff hm).mpr ⟨hmem, hk⟩, hv' ▸ hmin, ?_⟩
    rw [he, ← hkey, hk]

theorem run_refines_timed_map (config : CacheConfig) (events : List (MemoryEvent α)) (now : Nat)
    (hclock : (events.map MemoryEvent.now ++ [now]).Pairwise (· ≤ ·)) :
    let m := (empty config).run events
    (∀ key value, m.get? now key = some value ↔ Remembers config events now key value) ∧
    (∀ tie key value ttl, let m' := m.set tie now key value ttl
      (∀ k k', k ≠ key → k' ≠ key → m.Drops m' now k → m.Drops m' now k' → k = k') ∧
      ∀ k, k ≠ key → m.Drops m' now k →
        m.find? key = none ∧ max config.maxItems 1 ≤ (live now m.held).length ∧
          ∃ h, m.find? k = some h ∧ ∀ g ∈ live now m.held, h.expires ≤ g.expires) ∧
    m.size ≤ max config.maxItems 1 := by
  intro m
  have hm : m.Distinct := (distinct_empty config).run events
  have hconfig : m.config = config := run_config _ events
  have hnow : ∀ e ∈ events, e.now ≤ now := by
    intro e he
    exact (List.pairwise_append.mp hclock).2.2 e.now (List.mem_map_of_mem he) now (by simp)
  refine ⟨fun key value => get?_run hnow, fun tie key value ttl => ⟨?_, ?_⟩, ?_⟩
  · intro k k' hk hk' hdrop hdrop'
    obtain ⟨-, -, -, -, -, hroom⟩ := held_of_drops_set hm hk hdrop
    obtain ⟨-, -, h', hfind', -, hroom'⟩ := held_of_drops_set hm hk' hdrop'
    -- both keys are the one that is missing from what was kept
    by_contra hkk
    obtain ⟨hmem', rfl⟩ := (find?_eq_some_iff hm).mp hfind'
    obtain ⟨g, hg, hgk, hlt⟩ := (get?_isSome_iff hm).mp hdrop'.1
    have hin : g ∈ without k (live now m.held) :=
      mem_without.mpr ⟨mem_live.mpr ⟨hg, hlt⟩, fun he => hkk (he.symm.trans hgk)⟩
    rw [← hroom, hroom'] at hin
    exact (mem_without.mp hin).2 hgk
  · intro k hk hdrop
    obtain ⟨hnone, hfull, h, hfind, hmin, -⟩ := held_of_drops_set hm hk hdrop
    exact ⟨hnone, hconfig ▸ hfull, h, hfind, hmin⟩
  · exact size_run_le (m := empty config) (Nat.zero_le _) events

def crowding : List (MemoryEvent Nat) :=
  [⟨0, .set (fun _ => 0) "a" 1 0⟩, ⟨3, .purge⟩, ⟨4, .set (fun _ => 3) "b" 2 5⟩, ⟨6, .get "a"⟩]

theorem run_refines_timed_map_crowding :
    (crowding.map MemoryEvent.now ++ [8]).Pairwise (· ≤ ·) ∧
      ¬ Remembers ⟨10, 7, 1⟩ crowding 8 "a" 1 ∧ Remembers ⟨10, 7, 1⟩ crowding 8 "b" 2 ∧
      ((empty ⟨10, 7, 1⟩).run crowding).size ≤ 1 := by
  have hclock : (crowding.map MemoryEvent.now ++ [8]).Pairwise (· ≤ ·) := by decide
  obtain ⟨hget, -, hsize⟩ := run_refines_timed_map ⟨10, 7, 1⟩ crowding 8 hclock
  have hgone : ((empty ⟨10, 7, 1⟩).run crowding).get? 8 "a" = none := rfl
  refine ⟨hclock, fun h => ?_, (hget "b" 2).mp rfl, hsize⟩
  rw [(hget "a" 1).mpr h] at hgone
  cases hgone

end Memory

end PortfolioReports
