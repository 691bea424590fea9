import PortfolioReports.Proofs.Memory.TimedMap

/-!
What is found, and what is given up for a new key, hangs on the values that have not run out.
-/

namespace PortfolioReports

variable {α : Type}

def MemoryOp.isSweep : MemoryOp α → Bool
  | .purge | .sweep .. => true
  | .set .. | .get _ | .erase _ | .clear => false

namespace MemoryEvent

def requests (events : List (MemoryEvent α)) : List (MemoryEvent α) := events.filter fun e => !e.op.isSweep

def InOrder (events : List (MemoryEvent α)) : Prop := (events.map now).Pairwise (· ≤ ·)

instance (events : List (MemoryEvent α)) : Decidable (InOrder events) :=
  inferInstanceAs (Decidable ((events.map now).Pairwise (· ≤ ·)))

end MemoryEvent

namespace Memory

def answers (m : Memory α) : List (MemoryEvent α) → List (Option α)
  | [] => []
  | e :: rest =>
    match e.op with
    | .get key => m.get? e.now key :: (m.apply e).answers rest
    | _ => (m.apply e).answers rest

structure Sound (m : Memory α) : Prop where
  distinct : m.Distinct
  size_le : m.size ≤ max m.config.maxItems 1

theorem Sound.apply {m : Memory α} (h : m.Sound) (e : MemoryEvent α) : (m.apply e).Sound := by
  refine ⟨h.distinct.apply e, ?_⟩
  rw [m.apply_config e]
  exact size_apply_le h.size_le e

theorem sound_empty (config : CacheConfig) : (empty config : Memory α).Sound :=
  ⟨distinct_empty config, Nat.zero_le _⟩

/-- Two memories that differ in values that have run out only. -/
structure SameLive (now : Nat) (m m' : Memory α) : Prop where
  config : m.config = m'.config
  held : live now m.held = live now m'.held

theorem live_live {now later : Nat} (hle : now ≤ later) (l : List (Held α)) :
    live later (live now l) = live later l := by
  simp only [live, List.filter_filter]
  apply List.filter_congr
  intro h _
  by_cases hlt : later < h.expires
  · simp [hlt, hle.trans_lt hlt]
  · simp [hlt]

theorem live_without (now : Nat) (key : String) (l : List (Held α)) :
    live now (without key l) = without key (live now l) := List.filter_comm ..

theorem SameLive.later {m m' : Memory α} {now later : Nat} (h : SameLive now m m') (hle : now ≤ later) :
    SameLive later m m' := by
  refine ⟨h.config, ?_⟩
  rw [← live_live hle m.held, ← live_live hle m'.held, h.held]

theorem get?_eq_of_sameLive {m m' : Memory α} (hm : m.Distinct) (hm' : m'.Distinct) {now : Nat}
    (h : SameLive now m m') (key : String) : m.get? now key = m'.get? now key := by
  have hheld : ∀ g : Held α, (g ∈ m.held ∧ now < g.expires) ↔ (g ∈ m'.held ∧ now < g.expires) := by
    intro g
    rw [← mem_live, ← mem_live, h.held]
  apply Option.ext
  intro v
  rw [get?_eq_some_iff hm, get?_eq_some_iff hm']
  constructor
  · rintro ⟨g, hmem, hk, hv, hlt⟩
    exact ⟨g, ((hheld g).mp ⟨hmem, hlt⟩).1, hk, hv, hlt⟩
  · rintro ⟨g, hmem, hk, hv, hlt⟩
    exact ⟨g, ((hheld g).mpr ⟨hmem, hlt⟩).1, hk, hv, hlt⟩

def kept (tie : TieBreak α) (maxItems : Nat) (key : String) (l : List (Held α)) : List (Held α) :=
  without key (if l.any (fun h => h.key == key) || l.length < maxItems then l else evict tie l)

theorem live_eq_nil_of_full {m : Memory α} {now : Nat} (hsize : m.size ≤ max m.config.maxItems 1)
    {g : Held α} (hg : g ∈ m.held) (hout : g.expires ≤ now)
    (hfull : m.config.maxItems ≤ (live now m.held).length) : live now m.held = [] := by
  have hlt : (live now m.held).length < m.held.length := by
    apply List.length_filter_lt_length_iff_exists.mpr
    exact ⟨g, hg, by simpa using hout⟩
  have hsize' : m.held.length ≤ max m.config.maxItems 1 := hsize
  exact List.length_eq_zero_iff.mp (by omega)

theorem live_makeRoom {m : Memory α} (hsize : m.size ≤ max m.config.maxItems 1) (tie : TieBreak α) (now : Nat)
    (key : String) : live now (without key (m.makeRoom tie now key)) =
      kept tie m.config.maxItems key (live now m.held) := by
  rw [live_without]
  have hwhole : live now (live now m.held) = live now m.held := live_live (Nat.le_refl now) m.held
  by_cases hfound : (live now m.held).any (fun h => h.key == key) = true
  · -- the key is there and has not run out: nothing makes room for it
    have hheld : (m.find? key).isSome = true := by
      obtain ⟨h, hmem, hk⟩ := List.any_eq_true.mp hfound
      exact find?_isSome_iff.mpr ⟨h, (mem_live.mp hmem).1, by simpa using hk⟩
    simp [kept, makeRoom, hfound, hheld]
  by_cases hfit : (live now m.held).length < m.config.maxItems
  · have hkept : kept tie m.config.maxItems key (live now m.held) = without key (live now m.held) := by
      simp [kept, hfit]
    rw [hkept]
    by_cases hroom : ((m.find? key).isSome || decide (m.held.length < m.config.maxItems)) = true
    · simp only [makeRoom, hroom, if_true]
    · simp only [makeRoom, hroom, hfit, if_true, Bool.false_eq_true, if_false, hwhole]
  have hkept : kept tie m.config.maxItems key (live now m.held) = without key (evict tie (live now m.held)) := by
    simp only [kept, hfound, hfit, decide_false, Bool.or_self, Bool.false_eq_true, if_false]
  rw [hkept]
  have hlong : ¬ m.held.length < m.config.maxItems := by
    have hle := (live_sublist now m.held).length_le
    omega
  cases hheld : (m.find? key).isSome with
  | true =>
    -- a value under the key has run out, so a memory this full has no other
    obtain ⟨g, hmem, hk⟩ := find?_isSome_iff.mp hheld
    have hout : g.expires ≤ now := by
      by_contra hlt
      exact hfound (List.any_eq_true.mpr ⟨g, mem_live.mpr ⟨hmem, by omega⟩, by simpa using hk⟩)
    have hnil := live_eq_nil_of_full hsize hmem hout (by omega)
    have hroom : m.makeRoom tie now key = m.held := by simp [makeRoom, hheld]
    rw [hroom, hnil]
    rfl
  | false =>
    have hroom : m.makeRoom tie now key = evict tie (live now m.held) := by
      simp [makeRoom, hheld, hlong, hfit]
    rw [hroom]
    congr 1
    -- what was not given up has not run out either
    apply List.filter_eq_self.mpr
    intro h hmem
    have hlive : h ∈ live now m.held := by
      unfold evict at hmem
      split at hmem
      · exact (mem_without.mp hmem).1
      · exact hmem
    simpa using (mem_live.mp hlive).2

theorem SameLive.set {m m' : Memory α} (hm : m.Sound) (hm' : m'.Sound) {now : Nat} (h : SameLive now m m')
    (tie : TieBreak α) (key : String) (value : α) (ttl : Span) :
    SameLive now (m.set tie now key value ttl) (m'.set tie now key value ttl) := by
  refine ⟨h.config, ?_⟩
  have hrest : live now (without key (m.makeRoom tie now key)) =
      live now (without key (m'.makeRoom tie now key)) := by
    rw [live_makeRoom hm.size_le, live_makeRoom hm'.size_le, h.config, h.held]
  simp only [live] at hrest
  simp only [Memory.set, ttlOf, live, List.filter_cons, h.config, hrest]

theorem live_sweepAll (m : Memory α) (sweeps : Sweeps) (start stop : Nat) :
    live stop (m.sweepAll sweeps start stop).held = live stop m.held := by
  unfold sweepAll
  induction sweeps.all generalizing m with
  | nil => rfl
  | cons started rest ih =>
    have hone : live stop (m.sweep started start stop).held = live stop m.held := by
      unfold sweep
      split
      · rename_i t ht
        exact live_live (lastSweep?_le ht) m.held
      · rfl
    rw [List.foldl_cons, ih, hone]

theorem SameLive.apply_request {m m' : Memory α} (hm : m.Sound) (hm' : m'.Sound) {e : MemoryEvent α}
    (h : SameLive e.now m m') (hrequest : e.op.isSweep = false) : SameLive e.now (m.apply e) (m'.apply e) := by
  obtain ⟨now, op⟩ := e
  cases op with
  | set tie key value ttl => exact h.set hm hm' tie key value ttl
  | get key => exact h
  | erase key =>
    refine ⟨h.config, ?_⟩
    show live now (without key m.held) = live now (without key m'.held)
    rw [live_without, live_without, h.held]
  | clear => exact ⟨h.config, rfl⟩
  | purge => cases hrequest
  | sweep sweeps start => cases hrequest

theorem SameLive.apply_sweep {m m' : Memory α} {e : MemoryEvent α} (h : SameLive e.now m m')
    (hsweep : e.op.isSweep = true) : SameLive e.now (m.apply e) m' := by
  refine ⟨(m.apply_config e).trans h.config, ?_⟩
  obtain ⟨now, op⟩ := e
  cases op with
  | purge => exact (live_live (Nat.le_refl now) m.held).trans h.held
  | sweep sweeps start => exact (live_sweepAll m sweeps start now).trans h.held
  | set tie key value ttl => cases hsweep
  | get key => cases hsweep
  | erase key => cases hsweep
  | clear => cases hsweep

theorem answers_cons_of_ne_get {e : MemoryEvent α} (hget : ∀ key, e.op ≠ .get key) (m : Memory α)
    (rest : List (MemoryEvent α)) : m.answers (e :: rest) = (m.apply e).answers rest := by
  simp only [answers]

theorem answers_requests {m m' : Memory α} (hm : m.Sound) (hm' : m'.Sound) {now : Nat} (h : SameLive now m m')
    {events : List (MemoryEvent α)} (hnow : ∀ e ∈ events, now ≤ e.now) (horder : MemoryEvent.InOrder events) :
    m.answers events = m'.answers (MemoryEvent.requests events) := by
  induction events generalizing m m' now with
  | nil => rfl
  | cons e rest ih =>
    obtain ⟨hfirst, hrest⟩ := List.pairwise_cons.mp horder
    have hlater : ∀ e' ∈ rest, e.now ≤ e'.now := fun e' he' => hfirst e'.now (List.mem_map_of_mem he')
    have hthen := h.later (hnow e (by simp))
    cases hop : e.op.isSweep with
    | true =>
      have hskip : MemoryEvent.requests (e :: rest) = MemoryEvent.requests rest := by
        simp [MemoryEvent.requests, hop]
      have hget : ∀ key, e.op ≠ .get key := by
        intro key hkey
        rw [hkey] at hop
        cases hop
      rw [hskip, answers_cons_of_ne_get hget]
      exact ih (hm.apply e) hm' (hthen.apply_sweep hop) hlater hrest
    | false =>
      have hkeep : MemoryEvent.requests (e :: rest) = e :: MemoryEvent.requests rest := by
        simp [MemoryEvent.requests, hop]
      have htail := ih (hm.apply e) (hm'.apply e) (hthen.apply_request hm hm' hop) hlater hrest
      rw [hkeep]
      cases hkey : e.op with
      | get key =>
        have hsame := get?_eq_of_sameLive hm.distinct hm'.distinct hthen key
        simp only [answers, hkey, hsame, htail]
      | _ => simp only [answers, hkey, htail]

theorem answers_eq_of_requests_eq (config : CacheConfig) {events events' : List (MemoryEvent α)}
    (horder : MemoryEvent.InOrder events) (horder' : MemoryEvent.InOrder events')
    (hsame : MemoryEvent.requests events = MemoryEvent.requests events') :
    (empty config).answers events = (empty config).answers events' := by
  have hempty : SameLive 0 (empty config : Memory α) (empty config) := ⟨rfl, rfl⟩
  have hsound : (empty config : Memory α).Sound := sound_empty config
  rw [answers_requests hsound hsound hempty (fun e _ => Nat.zero_le e.now) horder, hsame,
    ← answers_requests hsound hsound hempty (fun e _ => Nat.zero_le e.now) horder']

def leftUnswept : List (MemoryEvent Nat) :=
  [⟨0, .set (fun _ => 0) "a" 1 5⟩, ⟨1, .set (fun _ => 1) "b" 2 0⟩, ⟨7, .set (fun _ => 0) "a" 3 4⟩,
    ⟨8, .set List.length "c" 4 3⟩, ⟨9, .get "a"⟩, ⟨9, .get "b"⟩, ⟨9, .get "c"⟩]

def sweptOften : List (MemoryEvent Nat) :=
  [⟨0, .set (fun _ => 0) "a" 1 5⟩, ⟨0, .purge⟩, ⟨1, .set (fun _ => 1) "b" 2 0⟩, ⟨6, .sweep ⟨some 0, [2]⟩ 1⟩,
    ⟨7, .set (fun _ => 0) "a" 3 4⟩, ⟨8, .set List.length "c" 4 3⟩, ⟨8, .purge⟩, ⟨9, .get "a"⟩, ⟨9, .get "b"⟩,
    ⟨9, .get "c"⟩]

theorem answers_eq_of_requests_eq_sweptOften :
    MemoryEvent.InOrder leftUnswept ∧ MemoryEvent.InOrder sweptOften ∧
      MemoryEvent.requests leftUnswept = MemoryEvent.requests sweptOften ∧
      (empty ⟨10, 2, 2⟩).answers leftUnswept = (empty ⟨10, 2, 2⟩).answers sweptOften ∧
      (empty ⟨10, 2, 2⟩).answers leftUnswept = [none, some 2, some 4] := by
  have horder : MemoryEvent.InOrder leftUnswept := by decide
  have horder' : MemoryEvent.InOrder sweptOften := by decide
  exact ⟨horder, horder', rfl, answers_eq_of_requests_eq ⟨10, 2, 2⟩ horder horder' rfl, rfl⟩

end Memory

end PortfolioReports
