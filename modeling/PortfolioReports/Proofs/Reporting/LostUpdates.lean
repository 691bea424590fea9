import PortfolioReports.Proofs.Query.Stored
import PortfolioReports.Proofs.Reporting.ReportUpdates
import PortfolioReports.Proofs.Store.Reports
import PortfolioReports.Reporting.Reports

/-!
The reading and the writing of an update are two accesses, and the writing overwrites whatever was written since the
reading.
-/

namespace PortfolioReports

namespace ReportUpdate

variable {α : Type} {field : ReportUpdate → Option α} {updates : List ReportUpdate} {d : ReportUpdate}

def lastSet? (field : ReportUpdate → Option α) (updates : List ReportUpdate) : Option α :=
  updates.reverse.findSome? field

theorem lastSet?_concat (field : ReportUpdate → Option α) (updates : List ReportUpdate) (d : ReportUpdate) :
    lastSet? field (updates ++ [d]) = (field d).or (lastSet? field updates) := by
  rw [lastSet?, lastSet?, List.reverse_append, List.findSome?_append, List.reverse_singleton, List.findSome?_singleton]

def since (field : ReportUpdate → Option α) (updates : List ReportUpdate) : Nat :=
  (updates.reverse.takeWhile fun d => (field d).isNone).length

theorem since_concat (field : ReportUpdate → Option α) (updates : List ReportUpdate) (d : ReportUpdate) :
    since field (updates ++ [d]) = (field d).elim (since field updates + 1) fun _ => 0 := by
  rw [since, since, List.reverse_concat, List.takeWhile_cons]
  cases field d <;> rfl

def LastSet (field : ReportUpdate → Option α) (updates : List ReportUpdate) (P : α → Prop) : Prop :=
  ∀ a, lastSet? field updates = some a → P a

theorem LastSet.concat {P Q : α → Prop} (h : LastSet field updates P) (hset : ∀ a, field d = some a → Q a)
    (hkept : field d = none → ∀ a, P a → Q a) : LastSet field (updates ++ [d]) Q := by
  intro a ha
  rw [lastSet?_concat] at ha
  cases hd : field d with
  | none =>
    rw [hd, Option.none_or] at ha
    exact hkept hd a (h a ha)
  | some b =>
    rw [hd, Option.some_or] at ha
    exact hset a (hd.trans ha)

theorem LastSet.write {γ : Type} {old new : γ} (write : α → γ) (h : LastSet field updates fun a => old = write a)
    (hnew : new = (field d).elim old write) : LastSet field (updates ++ [d]) fun a => new = write a := by
  refine h.concat (fun a ha => ?_) fun hd a ha => ?_
  · rw [hnew, ha, Option.elim_some]
  · rw [hnew, hd, Option.elim_none, ha]

end ReportUpdate

open ReportUpdate

namespace ReportQuery

/-- The text of a query that has been stored and then read and written back a number of times. -/
def textAfter (q : ReportQuery) : Nat → Except StoreFault String
  | 0 => .ok q.toJson.print
  | n + 1 => (q.textAfter n).bind fun text =>
      (Stored.readJson shape ofJson? 4 text).map fun q' => q'.toJson.print

theorem textAfter_succ {q q' : ReportQuery} {n : Nat} {text : String} (htext : q.textAfter n = .ok text)
    (hread : Stored.readJson shape ofJson? 4 text = .ok q') : q.textAfter (n + 1) = .ok q'.toJson.print := by
  rw [textAfter, htext]
  change (Stored.readJson shape ofJson? 4 text).map _ = _
  rw [hread]
  rfl

theorem IsStorable.reread_iterate {q : ReportQuery} (h : q.IsStorable) (n : Nat) :
    (ReportQuery.reread^[n] q).IsStorable := by
  induction n with
  | zero => exact h
  | succ n ih =>
    rw [Function.iterate_succ_apply']
    exact ih.reread

theorem IsStorable.textAfter {q : ReportQuery} (h : q.IsStorable) (n : Nat) :
    q.textAfter n = .ok (ReportQuery.reread^[n] q).toJson.print := by
  induction n with
  | zero => rfl
  | succ n ih =>
    rw [Function.iterate_succ_apply']
    exact textAfter_succ ih ((h.reread_iterate n).readJson_print 4)

end ReportQuery

namespace ReportRow

/-- A query that an update does not give is read and written back. -/
structure ShowsRewritten (row : ReportRow) (updates : List ReportUpdate) : Prop where
  name : LastSet ReportUpdate.name? updates fun name => row.name = name
  description : LastSet ReportUpdate.description? updates fun text => row.description? = some text
  category : LastSet ReportUpdate.category? updates fun c => row.category = Vocabulary.name c
  query : LastSet ReportUpdate.query? updates fun q =>
    q.textAfter (since ReportUpdate.query? updates) = .ok row.query
  visibility : LastSet ReportUpdate.visibility? updates fun v => row.visibility = Vocabulary.name v
  isTemplate : LastSet ReportUpdate.isTemplate? updates fun b => row.isTemplate = b

structure Shows (row : ReportRow) (updates : List ReportUpdate) : Prop extends row.ShowsRewritten updates where
  query_eq : LastSet ReportUpdate.query? updates fun q => row.query = q.toJson.print

def QueryHolds (updates : List ReportUpdate) : Prop :=
  LastSet ReportUpdate.query? updates fun q => q.textAfter (since ReportUpdate.query? updates) = .ok q.toJson.print

variable {row : ReportRow} {x : Report} {updates : List ReportUpdate}

theorem queryHolds_iff (h : LastSet ReportUpdate.query? updates ReportQuery.IsStorable) :
    QueryHolds updates ↔ LastSet ReportUpdate.query? updates fun q =>
      (ReportQuery.reread^[since ReportUpdate.query? updates] q).toJson.print = q.toJson.print := by
  refine forall_congr' fun q => forall_congr' fun hq => ?_
  change q.textAfter _ = _ ↔ _
  rw [(h q hq).textAfter, Except.ok.injEq]

theorem ShowsRewritten.shows_iff (h : row.ShowsRewritten updates) : row.Shows updates ↔ QueryHolds updates := by
  constructor
  · intro hshows q hq
    rw [h.query q hq, hshows.query_eq q hq]
  · exact fun hholds => { h with
      query_eq := fun q hq => Except.ok.inj ((h.query q hq).symm.trans (hholds q hq)) }

theorem showsRewritten_nil (row : ReportRow) : row.ShowsRewritten [] where
  name := nofun
  description := nofun
  category := nofun
  query := nofun
  visibility := nofun
  isTemplate := nofun

theorem ShowsRewritten.revise (h : row.ShowsRewritten updates) (hread : row.toReport = .ok x) (d : ReportUpdate)
    (now : Calendar.Moment) : ((ofReport (x.revise d now)).updateFrom row).ShowsRewritten (updates ++ [d]) := by
  obtain ⟨hname, hdescription, hcategory, hquery, hvisibility, -, hisTemplate⟩ := columns_of_toReport hread
  constructor
  · refine h.name.write (fun name => name) (?_ : d.name?.getD x.name = _)
    cases d.name? <;> simp [hname]
  · refine h.description.write some (?_ : (d.description?.orElse fun _ => x.description?) = _)
    cases d.description? <;> simp [hdescription]
  · refine h.category.write Vocabulary.name (?_ : Vocabulary.name (d.category?.getD x.category) = _)
    cases d.category? <;> simp [hcategory]
  · rw [since_concat]
    refine h.query.concat (fun q hq => ?_) fun hd q hq => ?_
    · rw [hq]
      change .ok q.toJson.print = Except.ok (d.query?.getD x.query).toJson.print
      rw [hq, Option.getD_some]
    · rw [hd, Option.elim_none, ReportQuery.textAfter_succ hq hquery]
      change Except.ok x.query.toJson.print = Except.ok (d.query?.getD x.query).toJson.print
      rw [hd, Option.getD_none]
  · refine h.visibility.write Vocabulary.name (?_ : Vocabulary.name (d.visibility?.getD x.visibility) = _)
    cases d.visibility? <;> simp [hvisibility]
  · refine h.isTemplate.write (fun b => b) (?_ : d.isTemplate?.getD x.isTemplate = _)
    cases d.isTemplate? <;> simp [hisTemplate]

end ReportRow

open Call Reporting ReportRow

def Call.returned? : Call Answer → Option Report
  | .done (.ok (.report x)) => some x
  | _ => none

namespace Ongoing

def updated? (o : Ongoing) : Option (ReportUpdate × Report) :=
  match o.request with
  | .updateReport _ d => o.call.returned?.map fun x => (d, x)
  | _ => none

variable {o : Ongoing}

theorem updated?_begin (r : Request) (c : CallSetting) : (begin r c).updated? = none := by cases r <;> rfl

theorem updated?_eq {u : Uuid} {d : ReportUpdate} (h : o.request = .updateReport u d) :
    o.updated? = o.call.returned?.map fun x => (d, x) := by rw [updated?, h]

theorem updated?_turn {p : ReportUpdate × Report} (h : o.updated? = some p) (s : Store) :
    (o.turn .access s).updated? = some p := by
  obtain ⟨request, setting, found?, course?, call⟩ := o
  cases call with
  | done result => exact h
  | access kind change next => cases request <;> cases h
  | fetch queries next => cases request <;> cases h

end Ongoing

namespace Service

def success? (σ : Service) : ServiceEvent → Option (ReportUpdate × Report)
  | .turn i =>
    match σ.calls[i]? with
    | some o => if o.updated?.isSome then none else (o.turn .access σ.store).updated?
    | none => none
  | _ => none

def successes (σ : Service) : List ServiceEvent → List (ReportUpdate × Report)
  | [] => []
  | e :: events => (σ.success? e).toList ++ (σ.step .access e).successes events

theorem successes_concat (σ : Service) (events : List ServiceEvent) (e : ServiceEvent) :
    σ.successes (events ++ [e]) = σ.successes events ++ ((σ.run .access events).success? e).toList := by
  induction events generalizing σ with
  | nil => simp [successes, run]
  | cons e' events ih => simp [successes, run, ih]

theorem length_successes_le (σ : Service) (events : List ServiceEvent) :
    (σ.successes events).length ≤ events.length := by
  induction events generalizing σ with
  | nil => exact Nat.le_refl 0
  | cons e events ih =>
    have hfirst : (σ.success? e).toList.length ≤ 1 := by cases σ.success? e <;> simp
    have hrest := ih (σ.step .access e)
    rw [successes, List.length_append, List.length_cons]
    omega

theorem filterMap_set_perm {α : Type} {f : Ongoing → Option α} {calls : List Ongoing} {i : Nat} {o o' : Ongoing}
    (ho : calls[i]? = some o) (hnone : f o = none) :
    ((calls.set i o').filterMap f).Perm (calls.filterMap f ++ (f o').toList) := by
  induction calls generalizing i with
  | nil => cases ho
  | cons c calls ih =>
    have hcons : ∀ c calls, (c :: calls).filterMap f = (f c).toList ++ calls.filterMap f := by
      intro c calls
      rw [List.filterMap_cons]
      cases f c <;> rfl
    cases i with
    | zero =>
      obtain rfl : c = o := by simpa using ho
      rw [List.set_cons_zero, hcons, hcons, hnone, Option.toList_none, List.nil_append]
      exact List.perm_append_comm
    | succ i =>
      rw [List.set_cons_succ, hcons, hcons, List.append_assoc]
      exact (ih (by simpa using ho)).append_left _

theorem updated_step {σ : Service} {u : Uuid} {P : Report → Prop} (h : σ.Updating u P)
    (honly : ∀ (j : Nat) (o : Ongoing), σ.calls[j]? = some o → ∃ d, o.request = .updateReport u d)
    (e : ServiceEvent) : ((σ.step .access e).calls.filterMap Ongoing.updated?).Perm
      (σ.calls.filterMap Ongoing.updated? ++ (σ.success? e).toList) := by
  cases e with
  | begin request setting =>
    rw [step, List.filterMap_append, List.filterMap_cons, Ongoing.updated?_begin]
    exact .refl _
  | answer i course =>
    have hnone : σ.success? (.answer i course) = none := rfl
    rw [hnone, Option.toList_none, List.append_nil, step]
    split
    · rename_i o ho
      obtain ⟨d, hrequest⟩ := honly i o ho
      rw [answer_of_not_fetch (h i o d ho hrequest).ne_fetch, filterMap_set ho rfl]
    · exact .refl _
  | turn i =>
    simp only [success?, step]
    cases ho : σ.calls[i]? with
    | none => simp
    | some o =>
      cases hupdated : o.updated? with
      | none => simpa [hupdated] using filterMap_set_perm ho hupdated
      | some p =>
        have hsame : (o.turn .access σ.store).updated? = o.updated? := by
          rw [Ongoing.updated?_turn hupdated, hupdated]
        simp [filterMap_set ho hsame, hupdated]

def OnlyUpdates (u : Uuid) (events : List ServiceEvent) : Prop :=
  ∀ request setting, .begin request setting ∈ events → ∃ d, request = .updateReport u d

theorem OnlyUpdates.of_append {u : Uuid} {events events' : List ServiceEvent} (h : OnlyUpdates u (events ++ events')) :
    OnlyUpdates u events := fun request setting hmem => h request setting (List.mem_append_left _ hmem)

theorem OnlyUpdates.request {u : Uuid} {events : List ServiceEvent} (h : OnlyUpdates u events) (s : Store) (j : Nat)
    (o : Ongoing) (ho : ((start s).run .access events).calls[j]? = some o) : ∃ d, o.request = .updateReport u d :=
  h _ _ (begin_mem .access s events j o ho)

theorem updated_perm {s : Store} {events : List ServiceEvent} {u : Uuid} (honly : OnlyUpdates u events) :
    (((start s).run .access events).calls.filterMap Ongoing.updated?).Perm ((start s).successes events) := by
  induction events using List.reverseRecOn with
  | nil => exact .refl _
  | append_singleton events e ih =>
    rw [run_concat, successes_concat]
    exact (updated_step (updating_run s events u) (honly.of_append.request s) e).trans
      ((ih honly.of_append).append_right _)

section Step

variable {σ : Service} {u : Uuid} {row : ReportRow}

theorem turn_updating_of_live {s : Store} {x : Report} (hx : x.id = u) (hrow : s.reportsOf u = [row])
    (hlive : row.isLive = true) :
    (updating u x).turn .access s = ((s.updateReport x).1, .done (.ok (.report x))) ∧
      (s.updateReport x).1.reportsOf u = [(ReportRow.ofReport x).updateFrom row] := by
  have hany : s.reports.any (ReportRow.isLiveWith x.id) = true := by
    rw [hx, Store.any_isLiveWith, hrow]
    simpa using hlive
  have hid : row.id = u.toText := by
    have hmem : row ∈ s.reportsOf u := by simp [hrow]
    simpa using (List.mem_filter.mp hmem).2
  have hreports : (s.updateReport x).1.reports =
      Store.change (ReportRow.isLiveWith x.id) (ReportRow.ofReport x).updateFrom s.reports := rfl
  have hrows := Store.reportsOf_change hreports (fun _ => rfl) u
  constructor
  · rw [turn_updating, if_pos hany]
  · rw [hrows, hrow]
    simp [Store.change, ReportRow.isLiveWith, hlive, hid, hx]

theorem success?_turn {i : Nat} {o : Ongoing} (ho : σ.calls[i]? = some o) :
    σ.success? (.turn i) = if o.updated?.isSome then none else (o.turn .access σ.store).updated? := by
  simp only [success?, ho]

theorem success_cases {P : Report → Prop} (h : σ.Updating u P) (hP : ∀ x, P x → x.id = u)
    (honly : ∀ (j : Nat) (o : Ongoing), σ.calls[j]? = some o → ∃ d, o.request = .updateReport u d)
    (hrow : σ.store.reportsOf u = [row]) (hlive : row.isLive = true) (e : ServiceEvent) :
    (σ.success? e = none ∧ (σ.step .access e).store.reportsOf u = [row]) ∨
      ∃ d x now, P x ∧ σ.success? e = some (d, x.revise d now) ∧
        (σ.step .access e).store.reportsOf u = [(ReportRow.ofReport (x.revise d now)).updateFrom row] := by
  cases e with
  | begin request setting => exact .inl ⟨rfl, hrow⟩
  | answer i course =>
    refine .inl ⟨rfl, ?_⟩
    rw [step]
    split <;> exact hrow
  | turn i =>
    cases ho : σ.calls[i]? with
    | none => exact .inl ⟨by simp only [success?, ho], by simpa only [step, ho] using hrow⟩
    | some o =>
      obtain ⟨d, hrequest⟩ := honly i o ho
      have hstage := h i o d ho hrequest
      have hrequest' : (o.turn .access σ.store).request = .updateReport u d := hrequest
      rw [store_turn .access ho, success?_turn ho, Ongoing.updated?_eq hrequest, Ongoing.updated?_eq hrequest',
        Ongoing.turn]
      generalize o.call = call at hstage
      cases hstage with
      | reading =>
        rcases Request.turn_updateReport u d o.setting σ.store with ⟨f, hturn⟩ | ⟨x, -, hturn⟩
        · rw [hturn]
          exact .inl ⟨rfl, hrow⟩
        · rw [hturn]
          exact .inl ⟨rfl, hrow⟩
      | @writing x hx =>
        obtain ⟨hturn, hrows⟩ := turn_updating_of_live (x := x.revise d o.setting.now) (hP x hx) hrow hlive
        rw [hturn]
        exact .inr ⟨d, x, o.setting.now, hx, rfl, hrows⟩
      | done result =>
        refine .inl ⟨?_, hrow⟩
        have hturn : (Call.done result).turn .access σ.store = (σ.store, .done result) := rfl
        rw [hturn]
        cases (Call.done result).returned? <;> rfl

end Step

/-- Each update is written onto the version that it was read from. -/
def NoStaleWrite (s : Store) (events : List ServiceEvent) (u : Uuid) : Prop :=
  ∀ before e after, events = before ++ e :: after → ∀ d x row,
    ((start s).run .access before).success? e = some (d, x) →
    ((start s).run .access before).store.reportsOf u = [row] → x.version = row.version + 1

theorem noStaleWrite_nil (s : Store) (u : Uuid) : NoStaleWrite s [] u := by
  intro before e after hevents
  simp at hevents

theorem noStaleWrite_concat {s : Store} {events : List ServiceEvent} {e : ServiceEvent} {u : Uuid} :
    NoStaleWrite s (events ++ [e]) u ↔ NoStaleWrite s events u ∧ ∀ d x row,
      ((start s).run .access events).success? e = some (d, x) →
      ((start s).run .access events).store.reportsOf u = [row] → x.version = row.version + 1 := by
  constructor
  · refine fun h => ⟨fun before e' after hevents => ?_, h events e [] rfl⟩
    exact h before e' (after ++ [e]) (by rw [hevents, List.append_assoc, List.cons_append])
  · rintro ⟨hevents, hlast⟩ before e' after hsplit
    rcases List.eq_nil_or_concat after with rfl | ⟨after, e'', rfl⟩
    · obtain ⟨rfl, rfl⟩ := List.append_inj' hsplit rfl |>.imp_right List.singleton_inj.mp
      exact hlast
    · rw [List.concat_eq_append, ← List.cons_append, ← List.append_assoc] at hsplit
      exact hevents before e' after (List.append_inj' hsplit rfl).1

theorem toInt_add_one {v : Int64} (h : v.toInt + 1 < 2 ^ 63) : (v + 1).toInt = v.toInt + 1 := by
  have hle := v.le_toInt
  rw [Int64.toInt_add, Int64.toInt_one, Int.bmod_eq_of_le (by omega) (by omega)]

def wholeVersion (s : Store) (events : List ServiceEvent) (row : ReportRow) : Int :=
  row.version.toInt + ((start s).successes events).length

theorem wholeVersion_concat (s : Store) (events : List ServiceEvent) (e : ServiceEvent) (row : ReportRow) :
    wholeVersion s (events ++ [e]) row =
      wholeVersion s events row + (((start s).run .access events).success? e).toList.length := by
  rw [wholeVersion, wholeVersion, successes_concat, List.length_append]
  omega

theorem wholeVersion_le (s : Store) (events : List ServiceEvent) (row : ReportRow) :
    wholeVersion s events row ≤ row.version.toInt + events.length := by
  have hlength := length_successes_le (start s) events
  rw [wholeVersion]
  omega

/-- Where a report stands after updates: its version is at most what it would be if none was lost, and is just that as
long as none is written onto another version than it was read from. -/
structure Standing (s : Store) (events : List ServiceEvent) (u : Uuid) (first row : ReportRow) : Prop where
  rows : ((start s).run .access events).store.reportsOf u = [row]
  isLive : row.isLive = true
  le : row.version.toInt ≤ wholeVersion s events first
  returned : ∀ p ∈ (start s).successes events, p.2.version.toInt ≤ wholeVersion s events first
  pending : ((start s).run .access events).Updating u fun x => x.id = u ∧
    x.version.toInt ≤ wholeVersion s events first ∧
    (x.version.toInt = wholeVersion s events first → row.toReport = .ok x)
  whole : row.version.toInt = wholeVersion s events first →
    row.ShowsRewritten (((start s).successes events).map Prod.fst) ∧
      (((start s).successes events).map fun p => p.2.version).Nodup
  whole_iff : row.version.toInt = wholeVersion s events first ↔ NoStaleWrite s events u

namespace Standing

variable {s : Store} {events : List ServiceEvent} {u : Uuid} {first row : ReportRow}

theorem start (hrow : s.reportsOf u = [row]) (hlive : row.isLive = true) : Standing s [] u row row where
  rows := hrow
  isLive := hlive
  le := by simp [wholeVersion, successes]
  returned := by simp [successes]
  pending := updating_start s u _
  whole _ := ⟨row.showsRewritten_nil, .nil⟩
  whole_iff := by simp [wholeVersion, successes, noStaleWrite_nil]

theorem reads (h : Standing s events u first row) {x : Report}
    (hx : ((Service.start s).run .access events).store.getReport u = .ok (some x)) : x.id = u ∧
      x.version.toInt ≤ wholeVersion s events first ∧
      (x.version.toInt = wholeVersion s events first → row.toReport = .ok x) := by
  obtain ⟨r, hr, -, hread, hid⟩ := Store.of_getReport hx
  rw [h.rows, List.mem_singleton] at hr
  subst hr
  rw [(ReportRow.columns_of_toReport hread).version]
  exact ⟨hid, h.le, fun _ => hread⟩

theorem not_mem_versions (h : Standing s events u first row) {v : Int64} (hv : wholeVersion s events first < v.toInt) :
    v ∉ ((Service.start s).successes events).map fun p => p.2.version := by
  intro hmem
  obtain ⟨p, hp, rfl⟩ := List.mem_map.mp hmem
  exact absurd (h.returned p hp) (Int.not_le.mpr hv)

theorem quiet (h : Standing s events u first row) {e : ServiceEvent}
    (hnone : ((Service.start s).run .access events).success? e = none)
    (hrows : (((Service.start s).run .access events).step .access e).store.reportsOf u = [row]) :
    Standing s (events ++ [e]) u first row := by
  have hsame : (Service.start s).successes (events ++ [e]) = (Service.start s).successes events := by
    rw [successes_concat, hnone, Option.toList_none, List.append_nil]
  have hversion : wholeVersion s (events ++ [e]) first = wholeVersion s events first := by
    rw [wholeVersion_concat, hnone, Option.toList_none, List.length_nil, Nat.cast_zero, Int.add_zero]
  constructor
  case rows => rw [run_concat, hrows]
  case isLive => exact h.isLive
  case le =>
    rw [hversion]
    exact h.le
  case returned =>
    rw [hversion, hsame]
    exact h.returned
  case pending =>
    rw [hversion, run_concat]
    exact h.pending.step (fun x hx => h.reads hx) e
  case whole =>
    rw [hversion, hsame]
    exact h.whole
  case whole_iff =>
    rw [hversion, h.whole_iff, noStaleWrite_concat, hnone]
    simp

theorem write (h : Standing s events u first row) {e : ServiceEvent} {d : ReportUpdate} {x : Report}
    {now : Calendar.Moment} (hle : x.version.toInt ≤ wholeVersion s events first)
    (hread : x.version.toInt = wholeVersion s events first → row.toReport = .ok x)
    (hroom : first.version.toInt + (events.length + 1 : ℕ) < 2 ^ 63)
    (hsome : ((Service.start s).run .access events).success? e = some (d, x.revise d now))
    (hrows : (((Service.start s).run .access events).step .access e).store.reportsOf u =
      [(ReportRow.ofReport (x.revise d now)).updateFrom row]) :
    Standing s (events ++ [e]) u first ((ReportRow.ofReport (x.revise d now)).updateFrom row) := by
  have hmore : (Service.start s).successes (events ++ [e]) =
      (Service.start s).successes events ++ [(d, x.revise d now)] := by
    rw [successes_concat, hsome, Option.toList_some]
  have hversion : wholeVersion s (events ++ [e]) first = wholeVersion s events first + 1 := by
    rw [wholeVersion_concat, hsome, Option.toList_some, List.length_singleton, Nat.cast_one]
  have hbound := wholeVersion_le s events first
  have hnext : (x.version + 1).toInt = x.version.toInt + 1 := toInt_add_one (by omega)
  have hcurrent : x.version.toInt = wholeVersion s events first → row.version = x.version :=
    fun hx => (ReportRow.columns_of_toReport (hread hx)).version.symm
  have hrow : ((ReportRow.ofReport (x.revise d now)).updateFrom row).version = x.version + 1 := rfl
  constructor
  case rows => rw [run_concat, hrows]
  case isLive => exact h.isLive
  case le =>
    rw [hrow, hversion, hnext]
    omega
  case returned =>
    rw [hversion, hmore, List.forall_mem_append, List.forall_mem_singleton]
    refine ⟨fun p hp => (h.returned p hp).trans (by omega), ?_⟩
    change (x.version + 1).toInt ≤ _
    omega
  case pending =>
    -- what was read up to now is older than what is there now
    rw [hversion, run_concat]
    refine (h.pending.step (fun x hx => h.reads hx) e).mono fun y hy => ⟨hy.1, by omega, fun heq => ?_⟩
    exact absurd hy.2.1 (by omega)
  case whole =>
    rw [hrow, hversion, hmore, hnext]
    intro heq
    have hx : x.version.toInt = wholeVersion s events first := by omega
    obtain ⟨hshows, hdistinct⟩ := h.whole ((congrArg Int64.toInt (hcurrent hx)).trans hx)
    have hnew := h.not_mem_versions (v := x.version + 1) (by omega)
    rw [List.map_append, List.map_append]
    refine ⟨hshows.revise (hread hx) d now, ?_⟩
    exact hdistinct.append (List.nodup_singleton _) (List.disjoint_singleton.mpr hnew)
  case whole_iff =>
    rw [hrow, hversion, hnext, noStaleWrite_concat, ← h.whole_iff]
    constructor
    · intro heq
      have hx : x.version.toInt = wholeVersion s events first := by omega
      refine ⟨(congrArg Int64.toInt (hcurrent hx)).trans hx, fun d' x' row' hsome' hrow' => ?_⟩
      rw [hsome] at hsome'
      rw [h.rows] at hrow'
      cases hsome'
      cases hrow'
      exact congrArg (· + 1) (hcurrent hx).symm
    · rintro ⟨hwhole, hlast⟩
      have hsame : x.version = row.version := (Int64.add_left_inj 1).mp (hlast d _ row hsome h.rows)
      rw [hsame, hwhole]

end Standing

theorem standing_run {s : Store} {events : List ServiceEvent} {u : Uuid} {first : ReportRow}
    (hrow : s.reportsOf u = [first]) (hlive : first.isLive = true)
    (honly : OnlyUpdates u events) (hroom : first.version.toInt + events.length < 2 ^ 63) :
    ∃ row, Standing s events u first row := by
  induction events using List.reverseRecOn with
  | nil => exact ⟨first, .start hrow hlive⟩
  | append_singleton events e ih =>
    rw [List.length_append, List.length_singleton] at hroom
    obtain ⟨row, h⟩ := ih honly.of_append (by omega)
    rcases success_cases h.pending (fun _ hx => hx.1) (honly.of_append.request s) h.rows h.isLive e with
      ⟨hnone, hrows⟩ | ⟨d, x, now, ⟨-, hle, hread⟩, hsome, hrows⟩
    · exact ⟨row, h.quiet hnone hrows⟩
    · exact ⟨_, h.write hle hread hroom hsome hrows⟩

structure CountsUpdates (s : Store) (events : List ServiceEvent) (u : Uuid) (first : ReportRow)
    (Shows : ReportRow → List ReportUpdate → Prop) : Prop where
  versions : ((((start s).run .access events).calls.filterMap Ongoing.updated?).map fun p => p.2.version).Nodup
  last : ∃ row, ((start s).run .access events).store.reportsOf u = [row] ∧
    row.version.toInt = first.version.toInt +
      (((start s).run .access events).calls.filterMap Ongoing.updated?).length ∧
    Shows row (((start s).successes events).map Prod.fst)

abbrev NoUpdateLost (s : Store) (events : List ServiceEvent) (u : Uuid) (first : ReportRow) : Prop :=
  CountsUpdates s events u first ReportRow.Shows

theorem countsUpdates_iff_noStaleWrite {s : Store} {events : List ServiceEvent} {u : Uuid} {first : ReportRow}
    (hrow : s.reportsOf u = [first]) (hlive : first.isLive = true)
    (honly : OnlyUpdates u events) (hroom : first.version.toInt + events.length < 2 ^ 63) :
    CountsUpdates s events u first ReportRow.ShowsRewritten ↔ NoStaleWrite s events u := by
  obtain ⟨row, h⟩ := standing_run hrow hlive honly hroom
  have hperm := updated_perm (s := s) honly
  constructor
  · rintro ⟨-, row', hrow', hversion, -⟩
    rw [h.rows] at hrow'
    cases hrow'
    rw [hperm.length_eq] at hversion
    exact h.whole_iff.mp hversion
  · intro hfresh
    have hversion := h.whole_iff.mpr hfresh
    obtain ⟨hshows, hdistinct⟩ := h.whole hversion
    refine ⟨(hperm.map _).nodup_iff.mpr hdistinct, row, h.rows, ?_, hshows⟩
    rw [hversion, wholeVersion, hperm.length_eq]

/-- No update is lost just when each is written onto the version that it was read from, and the query that was set last
has held. Without the latter all is as it should be but this query, and that is what has been read and written back. -/
theorem noUpdateLost_iff_noStaleWrite (s : Store) (events : List ServiceEvent) (u : Uuid) (first : ReportRow)
    (hrow : s.reportsOf u = [first]) (hlive : first.isLive = true)
    (honly : OnlyUpdates u events) (hroom : first.version.toInt + events.length < 2 ^ 63) :
    (NoUpdateLost s events u first ↔
      NoStaleWrite s events u ∧ QueryHolds (((start s).successes events).map Prod.fst)) ∧
    (CountsUpdates s events u first ReportRow.ShowsRewritten ↔ NoStaleWrite s events u) := by
  have hcounts := countsUpdates_iff_noStaleWrite hrow hlive honly hroom
  refine ⟨?_, hcounts⟩
  rw [← hcounts]
  constructor
  · rintro ⟨hversions, row, hrow, hversion, hshows⟩
    have hrewritten := hshows.toShowsRewritten
    exact ⟨⟨hversions, row, hrow, hversion, hrewritten⟩, hrewritten.shows_iff.mp hshows⟩
  · rintro ⟨⟨hversions, row, hrow, hversion, hrewritten⟩, hholds⟩
    exact ⟨hversions, row, hrow, hversion, hrewritten.shows_iff.mpr hholds⟩

def namesReport : Report :=
  NewReport.report ⟨"Names", none, .custom, projectNames, none, .everyone, false⟩ .nil atNoon.now

def withNames : Store := { Store.empty with reports := [.ofReport namesReport] }

def lostRun : List ServiceEvent :=
  [.begin (.updateReport .nil ⟨some "Other names", none, none, none, none, none⟩) atNoon,
    .begin (.updateReport .nil ⟨none, some "All names", none, none, none, none⟩) atNoon,
    .turn 0, .turn 1, .turn 0, .turn 1]

theorem onlyUpdates_lostRun : OnlyUpdates .nil lostRun := by
  intro request setting h
  simp only [lostRun, List.mem_cons, ServiceEvent.begin.injEq, reduceCtorEq, List.not_mem_nil, or_false] at h
  rcases h with ⟨rfl, -⟩ | ⟨rfl, -⟩
  · exact ⟨_, rfl⟩
  · exact ⟨_, rfl⟩

theorem noUpdateLost_iff_noStaleWrite_lostRun : withNames.reportsOf .nil = [.ofReport namesReport] ∧
    (NoUpdateLost withNames lostRun .nil (.ofReport namesReport) ↔ NoStaleWrite withNames lostRun .nil ∧
      QueryHolds (((start withNames).successes lostRun).map Prod.fst)) :=
  ⟨rfl, (noUpdateLost_iff_noStaleWrite withNames lostRun .nil (.ofReport namesReport) rfl rfl onlyUpdates_lostRun
    (by decide)).1⟩

theorem lostRun_loses : ((((start withNames).run .access lostRun).calls.filterMap Ongoing.updated?).map
      fun p => p.2.version) = [2, 2] ∧
    (((start withNames).run .access lostRun).store.reportsOf .nil).map (fun row => (row.version, row.name)) =
      [(2, "Names")] ∧
    ¬ NoUpdateLost withNames lostRun .nil (.ofReport namesReport) := by
  have hlost : ((((start withNames).run .access lostRun).calls.filterMap Ongoing.updated?).map
      fun p => p.2.version) = [2, 2] ∧
      (((start withNames).run .access lostRun).store.reportsOf .nil).map (fun row => (row.version, row.name)) =
        [(2, "Names")] := by decide +kernel
  refine ⟨hlost.1, hlost.2, fun h => ?_⟩
  have hdistinct := h.versions
  rw [hlost.1] at hdistinct
  simp at hdistinct

end Service

end PortfolioReports
