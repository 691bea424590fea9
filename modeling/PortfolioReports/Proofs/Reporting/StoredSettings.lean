import PortfolioReports.Proofs.Reporting.Keeps
import PortfolioReports.Proofs.Settings

namespace PortfolioReports

open Settings

namespace Store

/-- The settings that the calls put, one call after another: those of the calls that succeed, in their order. -/
def acceptedSettings (source : StatementPair → FetchCourse) (s : Store) :
    List (Request × CallSetting) → List (String × String)
  | [] => []
  | (request, c) :: calls =>
    let ran := (request.call c).run source s
    match request, ran.2 with
    | .putSetting key text, .ok _ => (key, text) :: ran.1.acceptedSettings source calls
    | _, _ => ran.1.acceptedSettings source calls

variable {source : StatementPair → FetchCourse} {s : Store} {c : CallSetting} {key text : String}

theorem run_putSetting (source : StatementPair → FetchCourse) (s : Store) (c : CallSetting) (key text : String) :
    ((Request.putSetting key text).call c).run source s = match validate key text with
      | .ok _ => (s.putSetting key text, .ok .nothing)
      | .error cause => (s, .error cause) := by
  show ((fun _ => Answer.nothing) <$> Reporting.putSetting key text).run source s = _
  simp only [Reporting.putSetting, Call.check]
  cases validate key text <;> rfl

structure SettingsFrom (s : Store) (accepted : List (String × String)) : Prop where
  last : ∀ key, s.getSetting key = accepted.reverse.lookup key
  sorted : (s.settings.map Prod.fst).Pairwise (· < ·)
  valid : ∀ pair ∈ s.settings, validate pair.1 pair.2 = .ok ()

namespace SettingsFrom

variable {accepted : List (String × String)}

theorem empty : SettingsFrom empty [] := ⟨fun _ => rfl, .nil, nofun⟩

theorem put (h : SettingsFrom s accepted) (hvalid : validate key text = .ok ()) :
    SettingsFrom (s.putSetting key text) (accepted ++ [(key, text)]) := by
  constructor
  · intro key'
    rw [List.reverse_append, List.reverse_singleton, List.singleton_append, lookup_cons_eq_ite, ← h.last key']
    exact lookup_insertSorted key'
  · exact pairwise_insertSorted h.sorted
  · intro pair hmem
    rcases mem_insertSorted_of_mem hmem with rfl | hold
    · exact hvalid
    · exact h.valid pair hold

theorem after (h : SettingsFrom s accepted) {calls : List (Request × CallSetting)}
    (hputs : ∀ call ∈ calls, ∃ key text, call.1 = .putSetting key text) :
    SettingsFrom (s.after source calls) (accepted ++ s.acceptedSettings source calls) := by
  induction calls generalizing s accepted with
  | nil => rwa [acceptedSettings, List.append_nil]
  | cons call calls ih =>
    obtain ⟨request, c⟩ := call
    obtain ⟨⟨key, text, rfl⟩, hrest⟩ := List.forall_mem_cons.mp hputs
    have hran := run_putSetting source s c key text
    cases hvalidate : validate key text with
    | ok =>
      rw [hvalidate] at hran
      have hafter : s.after source ((.putSetting key text, c) :: calls) =
          (s.putSetting key text).after source calls := by
        rw [Store.after, List.foldl_cons, hran]
        rfl
      have haccepted : s.acceptedSettings source ((.putSetting key text, c) :: calls) =
          (key, text) :: (s.putSetting key text).acceptedSettings source calls := by
        simp only [acceptedSettings, hran]
      rw [hafter, haccepted, ← List.singleton_append, ← List.append_assoc]
      exact ih (h.put hvalidate) hrest
    | error cause =>
      rw [hvalidate] at hran
      have hafter : s.after source ((.putSetting key text, c) :: calls) = s.after source calls := by
        rw [Store.after, List.foldl_cons, hran]
        rfl
      have haccepted : s.acceptedSettings source ((.putSetting key text, c) :: calls) =
          s.acceptedSettings source calls := by
        simp only [acceptedSettings, hran]
      rw [hafter, haccepted]
      exact ih h hrest

theorem known (h : SettingsFrom s accepted) :
    ∀ pair ∈ s.settings, ∃ key : SettingKey, pair.1 = Vocabulary.name key := by
  intro pair hmem
  obtain ⟨key, hname, -⟩ := validate_eq_ok_iff.mp (h.valid pair hmem)
  exact ⟨key, hname.symm⟩

theorem exists_settings (h : SettingsFrom s accepted) (c : CallSetting) :
    ∃ settings, (Request.settings.call c).run source s = (s, .ok (.settings settings)) ∧
      Follows accepted settings := by
  have hreadable : Readable s.settings := readable_iff_validate.mpr fun pair hmem _ => h.valid pair hmem
  obtain ⟨settings, hread, hfollows⟩ := exists_ofPairs hreadable
  refine ⟨settings, ?_, fun key => ?_⟩
  · show ((Call.check (ofPairs s.settings)).bind fun x => pure (Answer.settings x)).run source s = _
    rw [hread]
    rfl
  · have hkey := hfollows key
    have hlast : s.settings.reverse.lookup (Vocabulary.name key) = accepted.reverse.lookup (Vocabulary.name key) := by
      rw [lookup_eq_of_perm (nodup_of_sorted h.sorted) (List.reverse_perm _)]
      exact h.last _
    rwa [hlast] at hkey

end SettingsFrom

theorem settings_sound (source : StatementPair → FetchCourse) (calls : List (Request × CallSetting))
    (hputs : ∀ call ∈ calls, ∃ key text, call.1 = .putSetting key text) (pairs : List (String × String))
    (hvalid : ∀ pair ∈ pairs, (∃ key : SettingKey, Vocabulary.name key = pair.1) → validate pair.1 pair.2 = .ok ()) :
    let s := empty.after source calls
    let accepted := empty.acceptedSettings source calls
    (∀ c, ∃ settings, (Request.settings.call c).run source s = (s, .ok (.settings settings)) ∧
        Follows accepted settings) ∧
      (∀ pair ∈ s.settings, ∃ key : SettingKey, pair.1 = Vocabulary.name key) ∧
      (∀ key, s.getSetting key = accepted.reverse.lookup key) ∧
      (∀ t t' c key text cause,
        ((Request.putSetting key text).call c).run source t = (t', .error cause) → t' = t) ∧
      (∃ settings, ofPairs pairs = .ok settings ∧ Follows pairs settings) ∧
      ∀ pairs', (pairs.map Prod.fst).Nodup ∧ pairs'.Perm pairs ∨
          (∀ name, pairs'.filter (fun pair => pair.1 == name) = pairs.filter fun pair => pair.1 == name) →
        ofPairs pairs' = ofPairs pairs := by
  intro s accepted
  have hs : SettingsFrom s accepted := SettingsFrom.empty.after hputs
  have hreadable : Readable pairs := readable_iff_validate.mpr hvalid
  refine ⟨hs.exists_settings, hs.known, hs.last, ?_, exists_ofPairs hreadable, ?_⟩
  · intro t t' c key text cause hrun
    rw [run_putSetting] at hrun
    split at hrun
    · cases hrun
    · exact (Prod.mk.inj hrun).1.symm
  · rintro pairs' (⟨hnodup, hperm⟩ | hsame)
    · exact ofPairs_eq_of_perm hreadable hnodup hperm
    · exact ofPairs_eq_of_filter hreadable hsame

def overlaid : List (String × String) :=
  [("dashboard.max_items", "50"), ("something.else", "x"), ("export.csv.delimiter", ";"),
    ("dashboard.max_items", " 60 ")]

def settingCalls : List (Request × CallSetting) :=
  (overlaid ++ [("dashboard.max_items", "lots")]).map fun pair => (.putSetting pair.1 pair.2, atNoon)

theorem settings_sound_overlaid :
    let source : StatementPair → FetchCourse := fun _ => .notBegun
    empty.acceptedSettings source settingCalls =
        [("dashboard.max_items", "50"), ("export.csv.delimiter", ";"), ("dashboard.max_items", " 60 ")] ∧
      (∃ settings, (Request.settings.call atNoon).run source (empty.after source settingCalls) =
          (empty.after source settingCalls, .ok (.settings settings)) ∧ settings.maxItems = 60) ∧
      ∃ settings, ofPairs overlaid = .ok settings ∧ settings.csvDelimiter = ';' ∧ settings.summaryTtlSecs = 300 := by
  intro source
  have haccepted : empty.acceptedSettings source settingCalls =
      [("dashboard.max_items", "50"), ("export.csv.delimiter", ";"), ("dashboard.max_items", " 60 ")] := by
    decide +kernel
  have hputs : ∀ call ∈ settingCalls, ∃ key text, call.1 = .putSetting key text := by
    intro call hcall
    obtain ⟨pair, -, rfl⟩ := List.mem_map.mp hcall
    exact ⟨pair.1, pair.2, rfl⟩
  have hvalid : ∀ pair ∈ overlaid, (∃ key : SettingKey, Vocabulary.name key = pair.1) →
      validate pair.1 pair.2 = .ok () := by
    have hunknown : ¬ ∃ key : SettingKey, Vocabulary.name key = "something.else" := by
      rintro ⟨key, hname⟩
      cases key <;> exact absurd hname (by decide)
    simp only [overlaid, List.forall_mem_cons, List.not_mem_nil, false_imp_iff, implies_true, and_true]
    exact ⟨fun _ => rfl, fun hname => absurd hname hunknown, fun _ => rfl, fun _ => rfl⟩
  obtain ⟨hstored, -, -, -, hpairs, -⟩ := settings_sound source settingCalls hputs overlaid hvalid
  obtain ⟨settings, hrun, hfollows⟩ := hstored atNoon
  obtain ⟨settings', hread, hfollows'⟩ := hpairs
  rw [haccepted] at hfollows
  have hitems : SettingKey.maxItems.read " 60 " = .ok settings.maxItems := hfollows .maxItems
  have hsixty : SettingKey.maxItems.read " 60 " = .ok (60 : Nat) := rfl
  have hdelimiter : SettingKey.csvDelimiter.read ";" = .ok settings'.csvDelimiter := hfollows' .csvDelimiter
  have hsemicolon : SettingKey.csvDelimiter.read ";" = .ok ';' := rfl
  exact ⟨haccepted, ⟨settings, hrun, Except.ok.inj (hitems.symm.trans hsixty)⟩, settings', hread,
    Except.ok.inj (hdelimiter.symm.trans hsemicolon), hfollows' .summaryTtl⟩

end Store

end PortfolioReports
