import Mathlib.Data.List.Induction
import PortfolioReports.Proofs.Json.SortedEntries
import PortfolioReports.Settings

namespace PortfolioReports

theorem Vocabulary.name_injective {α : Type} [Vocabulary α] : Function.Injective (Vocabulary.name : α → String) := by
  intro a b h
  have hfound := Vocabulary.ofName?_name a
  rw [h, Vocabulary.ofName?_name] at hfound
  exact (Option.some.inj hfound).symm

namespace SettingKey

abbrev Value : SettingKey → Type
  | summaryTtl | recentTtl | historicalTtl | cleanupInterval | maxItems => Nat
  | csvDelimiter => Char
  | pdfOrientation => Orientation
  | pdfPageSize => PageSize

def read : (key : SettingKey) → String → Except SettingFault key.Value
  | summaryTtl, text => Settings.readSeconds summaryTtl text
  | recentTtl, text => Settings.readSeconds recentTtl text
  | historicalTtl, text => Settings.readSeconds historicalTtl text
  | cleanupInterval, text => Settings.readSeconds cleanupInterval text
  | maxItems, text => Settings.readSeconds maxItems text
  | csvDelimiter, text => match text.toList with
    | [c] => .ok c
    | _ => .error (.notOneCharacter (Vocabulary.name csvDelimiter) text)
  | pdfOrientation, text => readWordAnyCase .unknownOrientation text
  | pdfPageSize, text => readWordAnyCase .unknownPageSize text

end SettingKey

namespace Settings

def value (s : Settings) : (key : SettingKey) → key.Value
  | .summaryTtl => s.summaryTtlSecs
  | .recentTtl => s.recentTtlSecs
  | .historicalTtl => s.historicalTtlSecs
  | .cleanupInterval => s.cleanupIntervalSecs
  | .maxItems => s.maxItems
  | .csvDelimiter => s.csvDelimiter
  | .pdfOrientation => s.pdfOrientation
  | .pdfPageSize => s.pdfPageSize

def set (s : Settings) : (key : SettingKey) → key.Value → Settings
  | .summaryTtl, n => { s with summaryTtlSecs := n }
  | .recentTtl, n => { s with recentTtlSecs := n }
  | .historicalTtl, n => { s with historicalTtlSecs := n }
  | .cleanupInterval, n => { s with cleanupIntervalSecs := n }
  | .maxItems, n => { s with maxItems := n }
  | .csvDelimiter, c => { s with csvDelimiter := c }
  | .pdfOrientation, o => { s with pdfOrientation := o }
  | .pdfPageSize, p => { s with pdfPageSize := p }

@[simp] theorem value_set_self (s : Settings) (key : SettingKey) (v : key.Value) : (s.set key v).value key = v := by
  cases key <;> rfl

theorem value_set_of_ne (s : Settings) {key other : SettingKey} (v : key.Value) (h : other ≠ key) :
    (s.set key v).value other = s.value other := by
  cases key <;> cases other <;> first | rfl | exact absurd rfl h

variable {s s' : Settings} {key : SettingKey} {text : String} {pair : String × String}
  {pairs pairs' : List (String × String)}

theorem ext_value (h : ∀ key, s.value key = s'.value key) : s = s' := by
  cases s
  cases s'
  simp only [mk.injEq]
  exact ⟨h .summaryTtl, h .recentTtl, h .historicalTtl, h .cleanupInterval, h .maxItems, h .csvDelimiter,
    h .pdfOrientation, h .pdfPageSize⟩

theorem apply_eq (s : Settings) (key : SettingKey) (text : String) :
    s.apply key text = (key.read text).map (s.set key) := by
  cases key with
  | csvDelimiter =>
    simp only [apply, SettingKey.read]
    rcases text.toList with _ | ⟨c, _ | ⟨d, cs⟩⟩ <;> rfl
  | _ => rfl

theorem apply_eq_ok_iff : s.apply key text = .ok s' ↔ ∃ v, key.read text = .ok v ∧ s' = s.set key v := by
  rw [apply_eq]
  cases key.read text <;> simp [Except.map, eq_comm]

theorem validate_name : validate (Vocabulary.name key) text = .ok () ↔ ∃ v, key.read text = .ok v := by
  rw [validate, Vocabulary.ofName?_name]
  simp only [apply_eq]
  cases key.read text <;> simp [Except.map]

theorem validate_eq_ok_iff {name : String} :
    validate name text = .ok () ↔ ∃ key : SettingKey, Vocabulary.name key = name ∧ ∃ v, key.read text = .ok v := by
  constructor
  · intro h
    cases hkey : (Vocabulary.ofName? name : Option SettingKey) with
    | none => simp [validate, hkey] at h
    | some key =>
      obtain rfl := Vocabulary.name_of_ofName? hkey
      exact ⟨key, rfl, validate_name.mp h⟩
  · rintro ⟨key, rfl, h⟩
    exact validate_name.mpr h

theorem applyPair_eq_ok_iff : s.applyPair pair = .ok s' ↔
    (∃ (key : SettingKey) (v : key.Value), Vocabulary.name key = pair.1 ∧ key.read pair.2 = .ok v ∧ s' = s.set key v) ∨
      (∀ key : SettingKey, Vocabulary.name key ≠ pair.1) ∧ s' = s := by
  cases hkey : (Vocabulary.ofName? pair.1 : Option SettingKey) with
  | none =>
    have hunknown : ∀ key : SettingKey, Vocabulary.name key ≠ pair.1 := by
      intro key hname
      rw [← hname, Vocabulary.ofName?_name] at hkey
      cases hkey
    simp [applyPair, hkey, hunknown, eq_comm]
  | some key =>
    have hname := Vocabulary.name_of_ofName? hkey
    have hsame : ∀ {other : SettingKey}, Vocabulary.name other = pair.1 → other = key := by
      intro other hother
      rw [← hother, Vocabulary.ofName?_name] at hkey
      exact Option.some.inj hkey
    rw [applyPair, hkey]
    simp only [apply_eq_ok_iff]
    constructor
    · rintro ⟨v, hread, rfl⟩
      exact .inl ⟨key, v, hname, hread, rfl⟩
    · rintro (⟨other, v, hother, hread, rfl⟩ | ⟨hunknown, -⟩)
      · obtain rfl := hsame hother
        exact ⟨v, hread, rfl⟩
      · exact absurd hname (hunknown key)

def Readable (pairs : List (String × String)) : Prop :=
  ∀ (key : SettingKey) (text : String), (Vocabulary.name key, text) ∈ pairs → ∃ v, key.read text = .ok v

theorem readable_iff_validate : Readable pairs ↔
    ∀ pair ∈ pairs, (∃ key : SettingKey, Vocabulary.name key = pair.1) → validate pair.1 pair.2 = .ok () := by
  constructor
  · rintro h ⟨_, text⟩ hmem ⟨key, rfl⟩
    exact validate_name.mpr (h key text hmem)
  · intro h key text hmem
    exact validate_name.mp (h _ hmem ⟨key, rfl⟩)

theorem Readable.of_perm (h : Readable pairs) (hperm : pairs'.Perm pairs) : Readable pairs' :=
  fun key text hmem => h key text (hperm.subset hmem)

/-- The value of a key is what its last text reads as, and the standard one if it has no text. -/
def Follows (pairs : List (String × String)) (s : Settings) : Prop :=
  ∀ key : SettingKey, match pairs.reverse.lookup (Vocabulary.name key) with
    | some text => key.read text = .ok (s.value key)
    | none => s.value key = standard.value key

theorem follows_standard : Follows [] standard := fun _ => rfl

theorem Follows.concat (h : Follows pairs s) (hstep : s.applyPair pair = .ok s') : Follows (pairs ++ [pair]) s' := by
  intro key
  have hkey := h key
  rw [List.reverse_append, List.reverse_singleton, List.singleton_append, lookup_cons_eq_ite]
  rcases applyPair_eq_ok_iff.mp hstep with ⟨named, v, hname, hread, rfl⟩ | ⟨hunknown, rfl⟩
  · by_cases heq : key = named
    · rw [← heq] at hname
      rw [if_pos hname]
      subst heq
      rwa [value_set_self]
    · have hother : Vocabulary.name key ≠ pair.1 :=
        fun hsame => heq (Vocabulary.name_injective (hsame.trans hname.symm))
      rwa [if_neg hother, value_set_of_ne s v heq]
  · rwa [if_neg (hunknown key)]

theorem Follows.unique (h : Follows pairs s) (h' : Follows pairs' s')
    (hlast : ∀ key : SettingKey,
      pairs'.reverse.lookup (Vocabulary.name key) = pairs.reverse.lookup (Vocabulary.name key)) : s' = s := by
  refine ext_value fun key => ?_
  have hkey := h key
  have hkey' := h' key
  rw [hlast] at hkey'
  cases hlookup : pairs.reverse.lookup (Vocabulary.name key) with
  | some text =>
    simp only [hlookup] at hkey hkey'
    exact Except.ok.inj (hkey'.symm.trans hkey)
  | none =>
    simp only [hlookup] at hkey hkey'
    exact hkey'.trans hkey.symm

theorem exists_foldlM_applyPair (h : Readable pairs) :
    ∃ s, pairs.foldlM applyPair standard = .ok s ∧ Follows pairs s := by
  induction pairs using List.reverseRecOn with
  | nil => exact ⟨standard, rfl, follows_standard⟩
  | append_singleton pairs pair ih =>
    obtain ⟨s, hs, hfollows⟩ := ih fun key text hmem => h key text (List.mem_append_left _ hmem)
    have hnext : ∃ s', s.applyPair pair = .ok s' := by
      by_cases hknown : ∃ key : SettingKey, Vocabulary.name key = pair.1
      · obtain ⟨key, hname⟩ := hknown
        obtain ⟨v, hread⟩ := h key pair.2 (by rw [hname]; simp)
        exact ⟨s.set key v, applyPair_eq_ok_iff.mpr (.inl ⟨key, v, hname, hread, rfl⟩)⟩
      · exact ⟨s, applyPair_eq_ok_iff.mpr (.inr ⟨not_exists.mp hknown, rfl⟩)⟩
    obtain ⟨s', hs'⟩ := hnext
    refine ⟨s', ?_, hfollows.concat hs'⟩
    rw [List.foldlM_append, hs]
    show [pair].foldlM applyPair s = .ok s'
    rw [List.foldlM_cons, hs']
    rfl

theorem exists_ofPairs (h : Readable pairs) : ∃ s, ofPairs pairs = .ok s ∧ Follows pairs s := by
  obtain ⟨s, hs, hfollows⟩ := exists_foldlM_applyPair h
  exact ⟨s, by rw [ofPairs, hs], hfollows⟩

theorem ofPairs_eq_of_last (h : Readable pairs) (h' : Readable pairs')
    (hlast : ∀ key : SettingKey,
      pairs'.reverse.lookup (Vocabulary.name key) = pairs.reverse.lookup (Vocabulary.name key)) :
    ofPairs pairs' = ofPairs pairs := by
  obtain ⟨s, hs, hfollows⟩ := exists_ofPairs h
  obtain ⟨s', hs', hfollows'⟩ := exists_ofPairs h'
  rw [hs, hs', hfollows.unique hfollows' hlast]

theorem ofPairs_eq_of_filter (h : Readable pairs)
    (hsame : ∀ name, pairs'.filter (fun pair => pair.1 == name) = pairs.filter fun pair => pair.1 == name) :
    ofPairs pairs' = ofPairs pairs := by
  have hreadable : Readable pairs' := by
    intro key text hmem
    have hkept : (Vocabulary.name key, text) ∈ pairs.filter fun pair => pair.1 == Vocabulary.name key := by
      rw [← hsame]
      exact List.mem_filter.mpr ⟨hmem, beq_self_eq_true _⟩
    exact h key text (List.mem_of_mem_filter hkept)
  refine ofPairs_eq_of_last h hreadable fun key => ?_
  rw [← lookup_filter pairs'.reverse, ← lookup_filter pairs.reverse, List.filter_reverse, List.filter_reverse, hsame]

theorem ofPairs_eq_of_perm (h : Readable pairs) (hnodup : (pairs.map Prod.fst).Nodup) (hperm : pairs'.Perm pairs) :
    ofPairs pairs' = ofPairs pairs := by
  have hnodup' : (pairs.reverse.map Prod.fst).Nodup := by rwa [List.map_reverse, List.nodup_reverse]
  have hperm' : pairs'.reverse.Perm pairs.reverse :=
    (List.reverse_perm pairs').trans (hperm.trans (List.reverse_perm pairs).symm)
  exact ofPairs_eq_of_last h (h.of_perm hperm) fun key => lookup_eq_of_perm hnodup' hperm'

end Settings

end PortfolioReports
