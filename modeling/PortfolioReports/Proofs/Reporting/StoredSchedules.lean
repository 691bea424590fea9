import PortfolioReports.Proofs.Records.Cron
import PortfolioReports.Proofs.Reporting.Accesses
import PortfolioReports.Proofs.Reporting.RowEffects

namespace PortfolioReports

open Calendar

def ScheduleRow.SameButActive (row row' : ScheduleRow) : Prop :=
  row' = { row with isActive := row'.isActive, updatedAt := row'.updatedAt }

namespace ScheduleRow.SameButActive

variable {a b c : ScheduleRow}

theorem refl (a : ScheduleRow) : a.SameButActive a := rfl

theorem trans (hab : a.SameButActive b) (hbc : b.SameButActive c) : a.SameButActive c := by
  unfold SameButActive at *
  rw [hbc, hab]

theorem id_eq (h : a.SameButActive b) : b.id = a.id := by rw [h]

theorem cron_eq (h : a.SameButActive b) : b.cron = a.cron := by rw [h]

end ScheduleRow.SameButActive

namespace Store

variable {s : Store} {row : ScheduleRow}

theorem of_mem_setScheduleActive {id : Uuid} {isActive : Bool} {now : Moment}
    (h : row ∈ (s.setScheduleActive id isActive now).1.schedules) : ∃ old ∈ s.schedules, old.SameButActive row := by
  obtain ⟨old, hold, rfl⟩ := List.mem_map.mp h
  refine ⟨old, hold, ?_⟩
  split
  · rfl
  · rfl

theorem of_mem_insertSchedule {x : Schedule} (h : row ∈ ((s.insertSchedule x).toOption.getD s).schedules) :
    row ∈ s.schedules ∨ row = .ofSchedule x := by
  unfold insertSchedule at h
  split at h
  · exact .inl h
  · split at h
    · exact (List.mem_append.mp h).imp_right List.mem_singleton.mp
    · exact .inl h

theorem schedules_insertReport (s : Store) (x : Report) :
    ((s.insertReport x).toOption.getD s).schedules = s.schedules := by
  unfold insertReport
  split <;> rfl

theorem schedules_insertExecution (s : Store) (e : Execution) :
    ((s.insertExecution e).toOption.getD s).schedules = s.schedules := by
  simp only [insertExecution]
  repeat' split
  all_goals rfl

theorem schedules_insertBenchmark (s : Store) (b : Benchmark) :
    ((s.insertBenchmark b).toOption.getD s).schedules = s.schedules := by
  unfold insertBenchmark
  split <;> rfl

theorem schedules_putWidget (s : Store) (w : Widget) : (s.putWidget w).schedules = s.schedules := by
  unfold putWidget
  dsimp only
  split <;> rfl

theorem schedules_moveWidgets (s : Store) (user : Uuid) (now : Moment) (positions : List (Uuid × Int64)) :
    (s.moveWidgets user now positions).1.schedules = s.schedules := by
  rw [moveWidgets_fst]

end Store

theorem Request.Accesses.of_mem_schedules {r : Request} {c : CallSetting} {f : Store → Store} (h : r.Accesses c f)
    {s : Store} {row : ScheduleRow} (hrow : row ∈ (f s).schedules) :
    (∃ old ∈ s.schedules, old.SameButActive row) ∨
      ∃ new, r = .createSchedule new ∧ validateCron new.cron = .ok () ∧
        row = .ofSchedule (new.schedule c.fresh c.now) := by
  have hkept : (f s).schedules = s.schedules → ∃ old ∈ s.schedules, old.SameButActive row :=
    fun hsame => ⟨row, hsame ▸ hrow, .refl row⟩
  cases h with
  | insertReport x => exact .inl (hkept (s.schedules_insertReport x))
  | insertExecution e => exact .inl (hkept (s.schedules_insertExecution e))
  | insertSchedule hnew hcron =>
    rcases Store.of_mem_insertSchedule hrow with hold | hmade
    · exact .inl ⟨row, hold, .refl row⟩
    · exact .inr ⟨_, hnew, hcron, hmade⟩
  | setScheduleActive id isActive now => exact .inl (Store.of_mem_setScheduleActive hrow)
  | deleteSchedule id => exact .inl ⟨row, List.mem_of_mem_filter hrow, .refl row⟩
  | insertBenchmark b => exact .inl (hkept (s.schedules_insertBenchmark b))
  | putWidget w => exact .inl (hkept (s.schedules_putWidget w))
  | moveWidgets user now positions => exact .inl (hkept (s.schedules_moveWidgets user now positions))
  | _ => exact .inl (hkept rfl)

def ScheduleRow.ComesFrom (s : Store) (events : List ServiceEvent) (row : ScheduleRow) : Prop :=
  (∃ old ∈ s.schedules, old.SameButActive row) ∨
    ∃ new c, .begin (.createSchedule new) c ∈ events ∧ validateCron new.cron = .ok () ∧
      (ScheduleRow.ofSchedule (new.schedule c.fresh c.now)).SameButActive row

theorem Service.comesFrom_run (g : Stride) (s : Store) (events : List ServiceEvent) :
    ∀ row ∈ ((start s).run g events).store.schedules, row.ComesFrom s events := by
  have hstart : ∀ row ∈ s.schedules, row.ComesFrom s events := fun row hrow => .inl ⟨row, hrow, .refl row⟩
  refine (keeps_run (P := fun s' => ∀ row ∈ s'.schedules, row.ComesFrom s events) g hstart fun request c hbegin =>
    (request.only_accesses c).keeps ?_).1
  intro f hf s' hs' row hrow
  rcases hf.of_mem_schedules hrow with ⟨old, hold, hsame⟩ | ⟨new, rfl, hcron, rfl⟩
  · rcases hs' old hold with ⟨first, hfirst, hsame'⟩ | ⟨new, c', hnew, hcron, hsame'⟩
    · exact .inl ⟨first, hfirst, hsame'.trans hsame⟩
    · exact .inr ⟨new, c', hnew, hcron, hsame'.trans hsame⟩
  · exact .inr ⟨new, c, hbegin, hcron, .refl _⟩

/-- What is stored is accepted, and has the fields of what was asked for. -/
def KeepsFields (asked stored : String) : Prop :=
  validateCron stored = .ok () ∧ ∃ f : CronFields, f.Spell asked ∧ f.Spell stored

theorem keepsFields_trim {asked : String} (h : validateCron asked = .ok ()) : KeepsFields asked (Text.trim asked) := by
  obtain ⟨f, hf, hunique⟩ := validateCron_eq_ok_iff_spell.mp h
  have htrim := CronFields.spell_trim_iff.mpr hf
  refine ⟨validateCron_eq_ok_iff_spell.mpr ⟨f, htrim, fun f' h' => ?_⟩, f, hf, htrim⟩
  exact hunique f' (CronFields.spell_trim_iff.mp h')

namespace Service

/-- The grammar is accepted and nothing else; a schedule that is made, and whatever is stored after any run that was
not in the store before, has the fields that were asked for. -/
theorem schedules_keepFields :
    (∀ expression, validateCron expression = .ok () ↔ ∃! f : CronFields, f.Spell expression) ∧
    (∀ source (s s' : Store) id now new x, (Reporting.createSchedule id now new).run source s = (s', .ok x) →
      s'.schedules = s.schedules ++ [.ofSchedule x] ∧ KeepsFields new.cron x.cron) ∧
    ∀ g (s : Store) events, ∀ row ∈ ((start s).run g events).store.schedules,
      (∃ old ∈ s.schedules, old.SameButActive row) ∨
        ∃ new c, .begin (.createSchedule new) c ∈ events ∧ row.id = c.fresh.toText ∧ KeepsFields new.cron row.cron := by
  refine ⟨fun _ => validateCron_eq_ok_iff_spell, fun source s s' id now new x hrun => ?_, fun g s events row hrow => ?_⟩
  · have hsettles : (Reporting.createSchedule id now new).Settles source s _ :=
      Reporting.settles_makeSchedule id now new
    rw [Call.Settles, hrun] at hsettles
    obtain ⟨hcron, rfl, rfl⟩ := hsettles
    exact ⟨rfl, keepsFields_trim hcron⟩
  · rcases comesFrom_run g s events row hrow with hold | ⟨new, c, hnew, hcron, hsame⟩
    · exact .inl hold
    · refine .inr ⟨new, c, hnew, hsame.id_eq, ?_⟩
      rw [hsame.cron_eq]
      exact keepsFields_trim hcron

def nightly : NewSchedule where
  report := .nil
  name := "Nightly"
  cron := " */5 0-23  ? JAN MON-FRI\n"
  timezone? := none
  format := .csv
  delivery := .email
  recipients := []
  webhook? := none
  createdBy? := none

def namesMade : List ServiceEvent :=
  [.begin (.createReport ⟨"Names", none, .custom, projectNames, none, .everyone, false⟩) atNoon, .turn 0]

def nightlyPaused : List ServiceEvent :=
  namesMade ++ [.begin (.createSchedule nightly) atNoon, .begin (.setScheduleActive .nil false) atNoon,
    .turn 1, .turn 1, .turn 2]

theorem schedules_keepFields_nightly :
    (∃! f : CronFields, f.Spell nightly.cron) ∧
    (∃ s' x, (Reporting.createSchedule .nil atNoon.now nightly).run Store.answerNothing
        ((start .empty).run .access namesMade).store = (s', .ok x) ∧ x.cron = "*/5 0-23  ? JAN MON-FRI" ∧
      s'.schedules = [.ofSchedule x] ∧ KeepsFields nightly.cron x.cron) ∧
    ∃ row ∈ ((start .empty).run .access nightlyPaused).store.schedules, row.isActive = false ∧
      KeepsFields nightly.cron row.cron := by
  obtain ⟨hgrammar, hmade, hstored⟩ := schedules_keepFields
  refine ⟨(hgrammar _).mp (by rfl), ?_, ?_⟩
  · have hcron : ((Reporting.createSchedule .nil atNoon.now nightly).run Store.answerNothing
        ((start .empty).run .access namesMade).store).2.toOption.map Schedule.cron =
          some "*/5 0-23  ? JAN MON-FRI" := by decide +kernel
    rcases hrun : (Reporting.createSchedule .nil atNoon.now nightly).run Store.answerNothing
      ((start .empty).run .access namesMade).store with ⟨s', cause | x⟩
    · rw [hrun] at hcron
      cases hcron
    · rw [hrun] at hcron
      obtain ⟨hschedules, hkeeps⟩ := hmade _ _ _ _ _ _ x hrun
      exact ⟨s', x, rfl, Option.some.inj hcron, hschedules, hkeeps⟩
  · have hpaused : ((start .empty).run .access nightlyPaused).store.schedules.any (·.isActive == false) = true := by
      decide +kernel
    obtain ⟨row, hrow, hinactive⟩ := List.any_eq_true.mp hpaused
    refine ⟨row, hrow, eq_of_beq hinactive, ?_⟩
    obtain ⟨old, hold, -⟩ | ⟨new, c, hnew, -, hkeeps⟩ := hstored .access .empty nightlyPaused row hrow
    · cases hold
    · obtain ⟨rfl, -⟩ : new = nightly ∧ c = atNoon := by simpa [nightlyPaused, namesMade] using hnew
      exact hkeeps

end Service

end PortfolioReports
