import Mathlib.Data.List.Induction
import PortfolioReports.Proofs.Dashboard.Notes

namespace PortfolioReports

open Calendar Memory

inductive DashboardOp where
  | summary (user? : Option Uuid)
  | series (q : SeriesQuery)
  | invalidate (user : Uuid)
  | refresh
  | change (source : DashboardSource)
  | pass (sweeps : Sweeps) (start : Nat)

namespace DashboardOp

def Builds (user? : Option Uuid) : DashboardOp → Prop
  | summary asked? => asked? = user?
  | refresh => user? = none
  | series _ | invalidate _ | change _ | pass .. => False

def Drops (user? : Option Uuid) : DashboardOp → Prop
  | invalidate user => user? = some user
  | refresh => True
  | summary _ | series _ | change _ | pass .. => False

end DashboardOp

structure DashboardEvent where
  now : RequestTime
  tie : TieBreak Remembered
  op : DashboardOp

/-- The clock of a history does not go back and has not passed an instant. -/
def ClockUpTo (events : List DashboardEvent) (now : Nat) : Prop :=
  (events.map (fun e => e.now.instant) ++ [now]).Pairwise (· ≤ ·)

instance (events : List DashboardEvent) (now : Nat) : Decidable (ClockUpTo events now) :=
  inferInstanceAs (Decidable (List.Pairwise ..))

theorem ClockUpTo.instant_le {events : List DashboardEvent} {now : Nat} (h : ClockUpTo events now)
    {e : DashboardEvent} (he : e ∈ events) : e.now.instant ≤ now :=
  (List.pairwise_append.mp h).2.2 e.now.instant (List.mem_map_of_mem he) now (by simp)

structure Station where
  dashboard : Dashboard
  source : DashboardSource

namespace Station

def start (config : DashboardConfig) (source : DashboardSource) : Station := ⟨.start config, source⟩

def step (σ : Station) (e : DashboardEvent) : Station :=
  match e.op with
  | .summary user? => { σ with dashboard := (σ.dashboard.summary e.tie σ.source e.now user?).dashboard }
  | .series q => { σ with dashboard := (σ.dashboard.series e.tie σ.source e.now q).dashboard }
  | .invalidate user => { σ with dashboard := σ.dashboard.invalidate user }
  | .refresh => { σ with dashboard := (σ.dashboard.refresh e.tie σ.source e.now).dashboard }
  | .change source => { σ with source }
  | .pass sweeps start => { σ with dashboard := σ.dashboard.sweepAll sweeps start e.now.instant }

def run (σ : Station) (events : List DashboardEvent) : Station := events.foldl step σ

theorem run_concat (σ : Station) (events : List DashboardEvent) (e : DashboardEvent) :
    σ.run (events ++ [e]) = (σ.run events).step e := List.foldl_append

variable {σ : Station} {config : DashboardConfig} {source : DashboardSource} {events : List DashboardEvent}
  {h : Held Remembered}

theorem worksBy_step (hσ : σ.dashboard.WorksBy config) (e : DashboardEvent) :
    (σ.step e).dashboard.WorksBy config := by
  obtain ⟨now, tie, op⟩ := e
  cases op with
  | summary user? =>
    rcases Dashboard.summary_cases hσ tie σ.source now user? with ⟨s, -, hhit⟩ | ⟨-, hmiss⟩
    · simp only [step, hhit]
      exact hσ
    · simp only [step, hmiss]
      exact hσ.rememberSummary ..
  | series q =>
    rcases σ.dashboard.series_cases tie σ.source now q with ⟨points, -, hhit⟩ | ⟨points, -, hmiss⟩ | ⟨cause, -, hfail⟩
    · simp only [step, hhit]
      exact hσ
    · simp only [step, hmiss]
      exact hσ.rememberSeries ..
    · simp only [step, hfail]
      exact hσ
  | invalidate user => exact hσ.invalidate user
  | refresh =>
    simp only [step, Dashboard.refresh_eq hσ]
    exact hσ.forget.rememberSummary ..
  | change source => exact hσ
  | pass sweeps start => exact hσ.sweepAll ..

theorem worksBy_run (config : DashboardConfig) (source : DashboardSource) (events : List DashboardEvent) :
    ((start config source).run events).dashboard.WorksBy config := by
  induction events using List.reverseRecOn with
  | nil => exact Dashboard.worksBy_start config
  | append_singleton events e ih =>
    rw [run_concat]
    exact worksBy_step ih e

theorem mem_step (hσ : σ.dashboard.WorksBy config) {e : DashboardEvent}
    (hmem : h ∈ (σ.step e).dashboard.memory.held) :
    (h ∈ σ.dashboard.memory.held ∧ ∀ user?, h.key = Dashboard.summaryKey user? → ¬ e.op.Drops user?) ∨
    (∃ user?, e.op.Builds user? ∧
      h = Dashboard.noteOfSummary config e.now.instant user? (σ.source.summary config e.now.moment user?)) ∨
    ∃ q points, e.op = .series q ∧ σ.source.series q = .ok points ∧
      h = Dashboard.noteOfSeries config e.now q points := by
  obtain ⟨now, tie, op⟩ := e
  cases op with
  | summary user? =>
    rcases Dashboard.mem_summary hσ hmem with hold | hnew
    · exact .inl ⟨hold, fun _ _ hdrops => hdrops⟩
    · exact .inr (.inl ⟨user?, rfl, hnew⟩)
  | series q =>
    rcases Dashboard.mem_series hσ hmem with hold | ⟨points, hok, hnew⟩
    · exact .inl ⟨hold, fun _ _ hdrops => hdrops⟩
    · exact .inr (.inr ⟨q, points, rfl, hok, hnew⟩)
  | invalidate user =>
    obtain ⟨hold, hne⟩ := Dashboard.mem_invalidate.mp hmem
    refine .inl ⟨hold, ?_⟩
    rintro user? hkey rfl
    exact hne hkey
  | refresh => exact .inr (.inl ⟨none, rfl, Dashboard.mem_refresh hσ hmem⟩)
  | change source => exact .inl ⟨hmem, fun _ _ hdrops => hdrops⟩
  | pass sweeps start => exact .inl ⟨Dashboard.mem_of_mem_sweepAll hmem, fun _ _ hdrops => hdrops⟩

/-- A held value was noted by an event of the history from what the source said then, and a summary was not
dropped since. -/
inductive Noted (config : DashboardConfig) (source : DashboardSource) (events : List DashboardEvent) :
    Held Remembered → Prop where
  | summary (before : List DashboardEvent) (e : DashboardEvent) (after : List DashboardEvent)
      (user? : Option Uuid) (hsplit : events = before ++ e :: after) (hbuilds : e.op.Builds user?)
      (hkept : ∀ e' ∈ after, ¬ e'.op.Drops user?) :
      Noted config source events (Dashboard.noteOfSummary config e.now.instant user?
        (((start config source).run before).source.summary config e.now.moment user?))
  | series (before : List DashboardEvent) (e : DashboardEvent) (after : List DashboardEvent) (q : SeriesQuery)
      (points : List SeriesPoint) (hsplit : events = before ++ e :: after) (hop : e.op = .series q)
      (hpoints : ((start config source).run before).source.series q = .ok points) :
      Noted config source events (Dashboard.noteOfSeries config e.now q points)

theorem Noted.concat {e : DashboardEvent} (hnoted : Noted config source events h)
    (hdrops : ∀ user?, h.key = Dashboard.summaryKey user? → ¬ e.op.Drops user?) :
    Noted config source (events ++ [e]) h := by
  cases hnoted with
  | summary before b after user? hsplit hbuilds hkept =>
    refine .summary before b (after ++ [e]) user? (by simp [hsplit]) hbuilds ?_
    intro e' he'
    rcases List.mem_append.mp he' with hold | hlast
    · exact hkept e' hold
    · rw [List.mem_singleton.mp hlast]
      exact hdrops user? rfl
  | series before b after q points hsplit hop hpoints =>
    exact .series before b (after ++ [e]) q points (by simp [hsplit]) hop hpoints

theorem noted_of_mem (config : DashboardConfig) (source : DashboardSource) (events : List DashboardEvent) :
    ∀ h ∈ ((start config source).run events).dashboard.memory.held, Noted config source events h := by
  induction events using List.reverseRecOn with
  | nil => intro h hmem; cases hmem
  | append_singleton events e ih =>
    intro h hmem
    rw [run_concat] at hmem
    rcases mem_step (worksBy_run config source events) hmem with
      ⟨hold, hdrops⟩ | ⟨user?, hbuilds, rfl⟩ | ⟨q, points, hop, hpoints, rfl⟩
    · exact (ih h hold).concat hdrops
    · exact .summary events e [] user? rfl hbuilds (by simp)
    · exact .series events e [] q points rfl hop hpoints

theorem noted_of_get? {now : Nat} {key : String} {value : Remembered}
    (hfound : ((start config source).run events).dashboard.memory.get? now key = some value) :
    ∃ h, Noted config source events h ∧ h.key = key ∧ h.value = value ∧ now < h.expires := by
  obtain ⟨h, hmem, hkey, hvalue, hlt⟩ := mem_of_get? hfound
  exact ⟨h, noted_of_mem config source events h hmem, hkey, hvalue, hlt⟩

end Station

def atInstant (instant : Nat) (op : DashboardOp) : DashboardEvent := ⟨requestAt instant, fun _ => 0, op⟩

end PortfolioReports
