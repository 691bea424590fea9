import PortfolioReports.Proofs.Store.Column
import PortfolioReports.Store.Executions

namespace PortfolioReports

open Calendar

structure Execution.Storable (e : Execution) : Prop where
  triggeredAt : e.triggeredAt.Storable
  completedAt : ∀ m, e.completedAt? = some m → m.Storable

namespace ExecutionRow

theorem toExecution_ofExecution {e : Execution} (h : e.Storable) : (ofExecution e).toExecution = .ok e := by
  simp [toExecution, ofExecution, Stored.readTime_utcText _ h.triggeredAt,
    Stored.readOptional_time _ h.completedAt, bind, Except.bind, pure, Except.pure]

theorem id_of_toExecution {r : ExecutionRow} {e : Execution} (h : r.toExecution = .ok e) {u : Uuid}
    (hid : r.id = u.toText) : e.id = u := by
  simp only [toExecution, hid, Stored.readUuid_toText, bind, Except.bind] at h
  repeat' split at h
  all_goals cases h
  rfl

theorem updateFrom_ofExecution {e e' : Execution} (hid : e'.id = e.id) (hreport : e'.report? = e.report?)
    (htriggeredBy : e'.triggeredBy? = e.triggeredBy?) (hformat : e'.format = e.format)
    (htriggeredAt : e'.triggeredAt = e.triggeredAt) :
    (ofExecution e').updateFrom (ofExecution e) = ofExecution e' := by
  simp [updateFrom, ofExecution, hid, hreport, htriggeredBy, hformat, htriggeredAt]

end ExecutionRow

namespace Store

def executionsOf (s : Store) (u : Uuid) : List ExecutionRow := s.executions.filter fun r => r.id == u.toText

variable {s s' : Store} {u : Uuid} {e : Execution}

theorem hasExecution_iff (s : Store) (u : Uuid) : s.hasExecution u = true ↔ s.executionsOf u ≠ [] := by
  simp [hasExecution, executionsOf, List.filter_eq_nil_iff]

theorem getExecution_eq (s : Store) (u : Uuid) :
    s.getExecution u = match (s.executionsOf u).head? with
      | some r => r.toExecution.map some
      | none => .ok none := by
  rw [getExecution, readFirst, executionsOf, List.head?_filter]
  cases s.executions.find? fun r => r.id == u.toText <;> rfl

theorem getExecution_of_nil (h : s.executionsOf u = []) : s.getExecution u = .ok none := by
  rw [getExecution_eq, h]
  rfl

theorem getExecution_of_singleton (h : s.executionsOf u = [.ofExecution e]) (he : e.Storable) :
    s.getExecution u = .ok (some e) := by
  rw [getExecution_eq, h, List.head?_cons]
  simp [ExecutionRow.toExecution_ofExecution he, Except.map]

theorem of_getExecution (h : s.getExecution u = .ok (some e)) :
    ∃ r ∈ s.executions, r.id = u.toText ∧ r.toExecution = .ok e := by
  obtain ⟨r, hr, hid, hread⟩ := of_readFirst h
  exact ⟨r, hr, beq_iff_eq.mp hid, hread⟩

theorem id_of_getExecution (h : s.getExecution u = .ok (some e)) : e.id = u := by
  obtain ⟨r, -, hid, hread⟩ := of_getExecution h
  exact ExecutionRow.id_of_toExecution hread hid

theorem executionsOf_of_eq (h : s'.executions = s.executions) (u : Uuid) :
    s'.executionsOf u = s.executionsOf u := by
  rw [executionsOf, h, executionsOf]

theorem insertExecution_of_fresh (hnew : s.executionsOf e.id = [])
    (hparent : ∀ u, e.report? = some u → s.hasReport u.toText = true) :
    s.insertExecution e = .ok { s with executions := s.executions ++ [.ofExecution e] } := by
  have habsent : s.hasExecution e.id = false := by
    rw [Bool.eq_false_iff, ne_eq, hasExecution_iff]
    simp [hnew]
  have hthere : (ExecutionRow.ofExecution e).report?.all s.hasReport = true := by
    cases hreport : e.report? with
    | none => simp [ExecutionRow.ofExecution, hreport]
    | some u => simp [ExecutionRow.ofExecution, hreport, hparent u hreport]
  simp [insertExecution, habsent, hthere]

theorem insertExecution_cases (s : Store) (e : Execution) :
    (∃ f, s.insertExecution e = .error f) ∨
      s.executionsOf e.id = [] ∧
        s.insertExecution e = .ok { s with executions := s.executions ++ [.ofExecution e] } := by
  simp only [insertExecution]
  split
  · exact .inl ⟨_, rfl⟩
  · rename_i habsent
    have hnew : s.executionsOf e.id = [] := by
      by_contra hrows
      exact habsent ((s.hasExecution_iff e.id).mpr hrows)
    split
    · exact .inr ⟨hnew, rfl⟩
    · exact .inl ⟨_, rfl⟩

theorem executionsOf_append (s : Store) (e : Execution) (u : Uuid) :
    Store.executionsOf { s with executions := s.executions ++ [.ofExecution e] } u =
      s.executionsOf u ++ if e.id = u then [.ofExecution e] else [] := by
  by_cases h : e.id = u
  · simp [executionsOf, ExecutionRow.ofExecution, h]
  · simp [executionsOf, ExecutionRow.ofExecution, h]

theorem executionsOf_updateExecution (s : Store) (e : Execution) (u : Uuid) :
    (s.updateExecution e).1.executionsOf u =
      if e.id = u then (s.executionsOf u).map (ExecutionRow.ofExecution e).updateFrom else s.executionsOf u := by
  -- an update keeps the identifiers, so it can be made before or after the rows are chosen
  have hsame : ∀ r : ExecutionRow,
      (if r.id == e.id.toText then (ExecutionRow.ofExecution e).updateFrom r else r).id = r.id := by
    intro r
    split <;> rfl
  simp only [updateExecution, change, executionsOf, List.filter_map, Function.comp_def, hsame]
  by_cases hid : e.id = u
  · rw [if_pos hid, hid]
    refine List.map_congr_left fun r hr => ?_
    rw [if_pos (List.mem_filter.mp hr).2]
  · rw [if_neg hid]
    conv_rhs => rw [← List.map_id (s.executions.filter fun r => r.id == u.toText)]
    refine List.map_congr_left fun r hr => ?_
    have hother : r.id = u.toText := by simpa using (List.mem_filter.mp hr).2
    have hne : ¬ u = e.id := fun h => hid h.symm
    simp [hother, hne]

theorem executions_updateExecution_ids (s : Store) (e : Execution) :
    (s.updateExecution e).1.executions.map ExecutionRow.id = s.executions.map ExecutionRow.id := by
  simp only [updateExecution, change, List.map_map]
  refine List.map_congr_left fun r _ => ?_
  simp only [Function.comp_apply]
  split <;> rfl

end Store

end PortfolioReports
