import PortfolioReports.Dashboard.Config

/-!
Values that have run out are held until they are dropped, but never found.
-/

namespace PortfolioReports

structure Held (α : Type) where
  key : String
  value : α
  expires : Nat

structure Memory (α : Type) where
  config : CacheConfig
  /-- The last one set comes first. -/
  held : List (Held α)

variable {α : Type}

/-- Which of the values that run out first is given up: a position among them, counted round. -/
abbrev TieBreak (α : Type) := List (Held α) → Nat

namespace Memory

def empty (config : CacheConfig) : Memory α := ⟨config, []⟩

def size (m : Memory α) : Nat := m.held.length

def isEmpty (m : Memory α) : Bool := m.held.isEmpty

def find? (m : Memory α) (key : String) : Option (Held α) := m.held.find? fun h => h.key == key

def get? (m : Memory α) (now : Nat) (key : String) : Option α :=
  (m.find? key).bind fun h => if now < h.expires then some h.value else none

def without (key : String) (held : List (Held α)) : List (Held α) := held.filter fun h => h.key != key

def erase (m : Memory α) (key : String) : Memory α := { m with held := without key m.held }

def clear (m : Memory α) : Memory α := { m with held := [] }

def live (now : Nat) (held : List (Held α)) : List (Held α) := held.filter fun h => now < h.expires

def purge (m : Memory α) (now : Nat) : Memory α := { m with held := live now m.held }

def soonest? : List (Held α) → Option Nat
  | [] => none
  | h :: hs => some (hs.foldl (fun t h => min t h.expires) h.expires)

def firstOut (held : List (Held α)) : List (Held α) := held.filter fun h => soonest? held == some h.expires

def victim? (tie : TieBreak α) (held : List (Held α)) : Option (Held α) :=
  let candidates := firstOut held
  candidates[tie held % candidates.length]?

def evict (tie : TieBreak α) (held : List (Held α)) : List (Held α) :=
  match victim? tie held with
  | some v => without v.key held
  | none => held

def makeRoom (m : Memory α) (tie : TieBreak α) (now : Nat) (key : String) : List (Held α) :=
  if (m.find? key).isSome || m.held.length < m.config.maxItems then m.held
  else
    let kept := live now m.held
    if kept.length < m.config.maxItems then kept else evict tie kept

def ttlOf (m : Memory α) (ttl : Span) : Span := if ttl = 0 then m.config.defaultTtl else ttl

/-- The value is one that runs out before the clock ends. Any other is not kept. -/
def set (m : Memory α) (tie : TieBreak α) (now : Nat) (key : String) (value : α) (ttl : Span) : Memory α :=
  { m with held := ⟨key, value, now + m.ttlOf ttl⟩ :: without key (m.makeRoom tie now key) }

def lastSweep? (interval started start stop : Nat) : Option Nat :=
  let n := (stop - started) / interval
  let t := started + n * interval
  if interval = 0 ∨ n = 0 ∨ t ≤ start then none else some t

/-- The memory after time has passed with a sweep going on; the last sweep undoes nothing that earlier
ones did, so it stands for all of them. -/
def sweep (m : Memory α) (started start stop : Nat) : Memory α :=
  match lastSweep? m.config.cleanupInterval started start stop with
  | some t => m.purge t
  | none => m

end Memory

/-- The sweeps that go on, by the instants at which they were started. Only the one started last can be
stopped; one that another was started after goes on for ever. -/
structure Sweeps where
  last? : Option Nat
  others : List Nat

namespace Sweeps

def none : Sweeps := ⟨Option.none, []⟩

def start (s : Sweeps) (now : Nat) : Sweeps := ⟨some now, s.last?.toList ++ s.others⟩

def stop (s : Sweeps) : Sweeps := { s with last? := Option.none }

def all (s : Sweeps) : List Nat := s.last?.toList ++ s.others

end Sweeps

def Memory.sweepAll (m : Memory α) (sweeps : Sweeps) (start stop : Nat) : Memory α :=
  sweeps.all.foldl (fun m started => m.sweep started start stop) m

end PortfolioReports
