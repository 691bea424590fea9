import PortfolioReports.Proofs.Reporting.Effects
import PortfolioReports.Proofs.Store.Reports

namespace PortfolioReports

open Call

namespace Reporting

def updating (u : Uuid) (x : Report) : Call Answer :=
  .access .write (fun s => (s.updateReport x).1) fun s =>
    .done (if s.reports.any (ReportRow.isLiveWith x.id) then .ok (.report x) else .error (.notFound (.report u)))

theorem turn_updating (u : Uuid) (x : Report) (s : Store) : (updating u x).turn .access s = ((s.updateReport x).1,
    .done (if s.reports.any (ReportRow.isLiveWith x.id) then .ok (.report x) else .error (.notFound (.report u)))) :=
  rfl

theorem exists_requireText (s : String) (cause : ConfigFault) : ∃ result, requireText s cause = .done result := by
  unfold requireText
  split
  · exact ⟨_, rfl⟩
  · exact ⟨_, rfl⟩

theorem exists_checkUpdate (d : ReportUpdate) : ∃ result, checkUpdate d = .done result := by
  unfold checkUpdate
  cases d.query? with
  | none =>
    cases d.name? with
    | none => exact ⟨_, rfl⟩
    | some name => exact exists_requireText name _
  | some q =>
    simp only [check]
    cases q.validate with
    | error f => exact ⟨.error f, rfl⟩
    | ok _ =>
      cases d.name? with
      | none => exact ⟨_, rfl⟩
      | some name => exact exists_requireText name _

theorem writing_eq (u : Uuid) (x : Report) : Answer.report <$> (do
    changed (.report u) (← change fun s => s.updateReport x)
    pure x) = updating u x := by
  have hnext : ∀ s : Store, Answer.report <$> (changed (.report u) (s.updateReport x).2 >>= fun _ => pure x) =
      .done (if s.reports.any (ReportRow.isLiveWith x.id) then .ok (.report x)
        else .error (.notFound (.report u))) := by
    intro s
    rw [Store.updateReport]
    cases s.reports.any (ReportRow.isLiveWith x.id) with
    | true => rfl
    | false => rfl
  exact congrArg (Call.access .write fun s => (s.updateReport x).1) (funext hnext)

end Reporting

open Reporting

theorem Request.turn_updateReport (u : Uuid) (d : ReportUpdate) (c : CallSetting) (s : Store) :
    (∃ f, ((Request.updateReport u d).call c).turn .access s = (s, .done (.error f))) ∨
      ∃ x, s.getReport u = .ok (some x) ∧
        ((Request.updateReport u d).call c).turn .access s = (s, updating u (x.revise d c.now)) := by
  have hturn : ((Request.updateReport u d).call c).turn .access s = (s, Answer.report <$> (do
      let x ← ofStore (s.getReport u) >>= found (.report u)
      checkUpdate d
      changed (.report u) (← change fun s => s.updateReport (x.revise d c.now))
      pure (x.revise d c.now))) := rfl
  rw [hturn]
  cases s.getReport u with
  | error f => exact .inl ⟨_, rfl⟩
  | ok x? =>
    cases x? with
    | none => exact .inl ⟨_, rfl⟩
    | some x =>
      obtain ⟨result, hcheck⟩ := exists_checkUpdate d
      rw [hcheck]
      cases result with
      | error f => exact .inl ⟨_, rfl⟩
      | ok _ => exact .inr ⟨x, rfl, congrArg _ (writing_eq u _)⟩

inductive UpdateStage (P : Report → Prop) (u : Uuid) (d : ReportUpdate) (c : CallSetting) : Call Answer → Prop where
  | reading : UpdateStage P u d c ((Request.updateReport u d).call c)
  | writing {x : Report} (hx : P x) : UpdateStage P u d c (updating u (x.revise d c.now))
  | done (result : Except Fault Answer) : UpdateStage P u d c (.done result)

namespace UpdateStage

variable {P Q : Report → Prop} {u : Uuid} {d : ReportUpdate} {c : CallSetting} {x : Call Answer} {s : Store}

theorem mono (h : UpdateStage P u d c x) (hPQ : ∀ r, P r → Q r) : UpdateStage Q u d c x := by
  cases h with
  | reading => exact .reading
  | writing hx => exact .writing (hPQ _ hx)
  | done result => exact .done result

theorem turn (h : UpdateStage P u d c x) (hread : ∀ r, s.getReport u = .ok (some r) → P r) :
    UpdateStage P u d c (x.turn .access s).2 := by
  cases h with
  | reading =>
    rcases Request.turn_updateReport u d c s with ⟨f, hturn⟩ | ⟨r, hr, hturn⟩
    · rw [hturn]
      exact .done _
    · rw [hturn]
      exact .writing (hread r hr)
  | writing hx => exact .done _
  | done result => exact .done result

theorem ne_fetch (h : UpdateStage P u d c x) (queries : StatementPair) (next : FetchCourse → Call Answer) :
    x ≠ .fetch queries next := by
  cases h with
  | reading => exact nofun
  | writing hx => exact nofun
  | done result => exact nofun

end UpdateStage

namespace Service

/-- Whatever an update of the report is about to write, it has made of a report of a certain kind. -/
def Updating (σ : Service) (u : Uuid) (P : Report → Prop) : Prop :=
  ∀ (j : Nat) (o : Ongoing) (d : ReportUpdate), σ.calls[j]? = some o → o.request = .updateReport u d →
    UpdateStage P u d o.setting o.call

namespace Updating

variable {σ : Service} {u : Uuid} {P Q : Report → Prop}

theorem mono (h : σ.Updating u P) (hPQ : ∀ x, P x → Q x) : σ.Updating u Q :=
  fun j o d ho hrequest => (h j o d ho hrequest).mono hPQ

theorem step (h : σ.Updating u P) (hread : ∀ x, σ.store.getReport u = .ok (some x) → P x) (e : ServiceEvent) :
    (σ.step .access e).Updating u P := by
  intro j o' d ho' hrequest
  rcases getElem?_step ho' with ⟨-, request, setting, -, rfl⟩ | ⟨o, ho, ⟨rfl, -⟩ | ⟨-, rfl⟩ | ⟨course, -, rfl⟩⟩
  · obtain rfl : request = .updateReport u d := hrequest
    exact .reading
  · exact h j _ d ho hrequest
  · exact (h j o d ho hrequest).turn hread
  · obtain ⟨hsame, -, -⟩ := request_answer course o
    rw [hsame] at hrequest
    have hstage := h j o d ho hrequest
    rwa [answer_of_not_fetch hstage.ne_fetch]

end Updating

theorem updating_start (s : Store) (u : Uuid) (P : Report → Prop) : (start s).Updating u P := by
  intro j o d ho
  simp [start] at ho

theorem updating_run (s : Store) (events : List ServiceEvent) (u : Uuid) :
    ((start s).run .access events).Updating u fun x => x.id = u := by
  induction events using List.reverseRecOn with
  | nil => exact updating_start s u _
  | append_singleton events e ih =>
    rw [run_concat]
    refine ih.step (fun x hx => ?_) e
    obtain ⟨_, -, -, -, hid⟩ := Store.of_getReport hx
    exact hid

end Service

end PortfolioReports
