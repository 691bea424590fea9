import Mathlib.Algebra.GroupWithZero.Nat
import PortfolioReports.Proofs.Query.Statement

namespace PortfolioReports

def placeholders (s : String) : Nat := s.toList.count '?'

theorem placeholders_append (s t : String) : placeholders (s ++ t) = placeholders s + placeholders t := by
  simp [placeholders]

theorem placeholders_append_eq_zero {s t : String} (hs : placeholders s = 0) (ht : placeholders t = 0) :
    placeholders (s ++ t) = 0 := by
  rw [placeholders_append, hs, ht]

theorem isJoinable_noPlaceholders : IsJoinable fun s => placeholders s = 0 := ⟨rfl, placeholders_append_eq_zero⟩

theorem placeholders_toString (n : Nat) : placeholders (toString n) = 0 := by
  apply List.count_eq_zero_of_not_mem
  intro hmem
  exact absurd (isDigit_of_mem_toString hmem) (by decide)

theorem placeholders_join (l : List String) : placeholders (String.join l) = (l.map placeholders).sum := by
  induction l with
  | nil => rfl
  | cons s l ih => simp [placeholders_append, ih]

theorem intercalate_append_cons (separator : String) (earlier : List String) (s : String) (later : List String) :
    separator.intercalate (earlier ++ s :: later) =
      String.join (earlier.map (· ++ separator)) ++ s ++ String.join (later.map (separator ++ ·)) := by
  induction earlier with
  | nil =>
    induction later generalizing s with
    | nil => simp
    | cons s' later ih =>
      have hrest := ih s'
      rw [List.nil_append] at hrest
      simp [hrest, String.append_assoc]
  | cons s' earlier ih =>
    rw [List.cons_append, String.intercalate_cons_of_ne_nil (by simp), ih]
    simp [String.append_assoc]

theorem placeholders_intercalate {separator : String} (h : placeholders separator = 0) (l : List String) :
    placeholders (separator.intercalate l) = (l.map placeholders).sum := by
  cases l with
  | nil => rfl
  | cons s l =>
    have hsplit := intercalate_append_cons separator [] s l
    rw [List.nil_append] at hsplit
    simp [hsplit, placeholders_append, placeholders_join, h, Function.comp_def]

/-- The text stands in the statement where its own arguments are the next ones. -/
def Statement.Binds (s : Statement) (text : String) (earlier own : List Cell) : Prop :=
  ∃ left right later, s.sql = left ++ text ++ right ∧ s.args = earlier ++ own ++ later ∧
    placeholders left = earlier.length ∧ placeholders text = own.length

namespace ReportQuery

/-- No `?` stands in what is written out as it is. Operands are bound, and directions, formats and types are
only looked at. -/
structure IsMarkFree (q : ReportQuery) : Prop where
  dataset : placeholders q.dataset = 0
  names : ∀ f ∈ q.fields, placeholders f.name = 0
  aliases : ∀ f ∈ q.fields, ∀ a ∈ f.alias?, placeholders a = 0
  expressions : ∀ c ∈ q.calculations, placeholders c.expression = 0
  calculations : ∀ c ∈ q.calculations, placeholders c.name = 0
  conditions : ∀ c ∈ q.conditions, placeholders c.field = 0
  groupings : ∀ g ∈ q.groupings, placeholders g.field = 0
  sorts : ∀ s ∈ q.sorts, placeholders s.field = 0

def withoutMisshapen (q : ReportQuery) : ReportQuery :=
  { q with conditions := q.conditions.filter Condition.isWellShaped }

end ReportQuery

namespace Operator

def arity : Operator → Nat
  | .between => 2
  | .isNull | .isNotNull => 0
  | _ => 1

theorem placeholders_ending (o : Operator) : placeholders o.ending = o.arity := by
  cases o <;> decide

end Operator

def Condition.boundByAll (conditions : List Condition) : List Cell :=
  (conditions.filter Condition.isWellShaped).flatMap Condition.bound

namespace Condition

theorem length_bound {c : Condition} (hshape : c.isWellShaped = true) : c.bound.length = c.operator.arity := by
  obtain ⟨field, operator, operand, connective?⟩ := c
  cases operator
  case isIn =>
    cases operand with
    | list items => rfl
    | _ => cases hshape
  case between =>
    cases operand with
    | list items =>
      rcases items with _ | ⟨low, _ | ⟨high, _ | ⟨_, _⟩⟩⟩
      case cons.cons.nil => rfl
      all_goals cases hshape
    | _ => cases hshape
  all_goals rfl

theorem placeholders_text {c : Condition} (hfield : placeholders c.field = 0) (hshape : c.isWellShaped = true) :
    placeholders c.text = c.bound.length := by
  rw [text, placeholders_append, hfield, Nat.zero_add, Operator.placeholders_ending, length_bound hshape]

theorem sum_placeholders {conditions : List Condition} (h : ∀ c ∈ conditions, placeholders c.field = 0) :
    ((conditions.filter isWellShaped).map fun c => placeholders c.text).sum = (boundByAll conditions).length := by
  induction conditions with
  | nil => rfl
  | cons c conditions ih =>
    rw [List.forall_mem_cons] at h
    cases hc : c.isWellShaped with
    | false => simpa [hc, boundByAll] using ih h.2
    | true =>
      have hrest := ih h.2
      simp only [boundByAll] at hrest ⊢
      simp [hc, hrest, placeholders_text h.1 hc]

theorem boundByAll_append_cons (earlier : List Condition) {c : Condition} (hc : c.isWellShaped = true)
    (later : List Condition) :
    boundByAll (earlier ++ c :: later) = boundByAll earlier ++ c.bound ++ boundByAll later := by
  simp [boundByAll, hc]

end Condition

namespace ReportQuery

variable {q : ReportQuery}

theorem arguments_eq (q : ReportQuery) : q.arguments = Condition.boundByAll q.conditions := by
  simp [arguments, clauses_eq, Condition.boundByAll, List.flatMap_map]

theorem wherePart_eq (q : ReportQuery) :
    q.wherePart = part " WHERE " " AND " ((q.conditions.filter Condition.isWellShaped).map Condition.text) := by
  simp [wherePart, clauses_eq, Function.comp_def]

theorem wherePart_append_cons {earlier later : List Condition} {c : Condition}
    (h : q.conditions = earlier ++ c :: later) (hc : c.isWellShaped = true) :
    ∃ right, q.wherePart = " WHERE " ++
      String.join ((earlier.filter Condition.isWellShaped).map fun c => c.text ++ " AND ") ++ c.text ++ right := by
  refine ⟨String.join ((later.filter Condition.isWellShaped).map fun c => " AND " ++ c.text), ?_⟩
  rw [wherePart_eq, h]
  simp [part, hc, intercalate_append_cons, Function.comp_def, String.append_assoc]

theorem placeholders_part {lead separator : String} (hlead : placeholders lead = 0)
    (hseparator : placeholders separator = 0) (items : List String) :
    placeholders (part lead separator items) = (items.map placeholders).sum := by
  unfold part
  split
  · simp_all [placeholders]
  · rw [placeholders_append, hlead, placeholders_intercalate hseparator, Nat.zero_add]

theorem placeholders_expression {f : Selection} (h : placeholders f.name = 0) : placeholders f.expression = 0 := by
  rw [Selection.expression_eq]
  split
  · rename_i a _
    have haggregate : placeholders (Vocabulary.name a) = 0 := by cases a <;> decide
    have hcall := placeholders_append_eq_zero haggregate (t := "(") (by decide)
    exact placeholders_append_eq_zero (placeholders_append_eq_zero hcall h) (by decide)
  · exact h

namespace IsMarkFree

theorem selectItems (h : q.IsMarkFree) : ∀ s ∈ q.selectItems, placeholders s = 0 := by
  intro s hs
  rcases List.mem_append.mp hs with hfield | hcalculation
  · obtain ⟨f, hf, rfl⟩ := List.mem_map.mp hfield
    have hexpression := placeholders_expression (h.names f hf)
    rw [selectItem_eq]
    split
    · rename_i a ha
      have has := placeholders_append_eq_zero hexpression (t := " AS ") (by decide)
      exact placeholders_append_eq_zero has (h.aliases f hf a ha)
    · exact hexpression
  · obtain ⟨c, hc, rfl⟩ := List.mem_map.mp hcalculation
    have hopen := placeholders_append_eq_zero (s := "(") (by decide) (h.expressions c hc)
    have has := placeholders_append_eq_zero hopen (t := ") AS ") (by decide)
    exact placeholders_append_eq_zero has (h.calculations c hc)

theorem wherePart (h : q.IsMarkFree) : placeholders q.wherePart = q.arguments.length := by
  rw [wherePart_eq, placeholders_part (by decide) (by decide), List.map_map, arguments_eq]
  exact Condition.sum_placeholders h.conditions

theorem groupPart (h : q.IsMarkFree) : placeholders q.groupPart = 0 := by
  apply isJoinable_noPlaceholders.part (by decide) (by decide)
  rw [List.forall_mem_map]
  intro g hg
  have hfield := h.groupings g hg
  rw [groupTerm_eq]
  cases g.grain with
  | none => exact hfield
  | _ => exact placeholders_append_eq_zero (placeholders_append_eq_zero (by decide) hfield) (by decide)

theorem orderPart (h : q.IsMarkFree) : placeholders q.orderPart = 0 := by
  apply isJoinable_noPlaceholders.part (by decide) (by decide)
  rw [List.forall_mem_map]
  intro s hs
  have hfield := placeholders_append_eq_zero (h.sorts s hs) (t := " ") (by decide)
  rw [orderTerm_eq]
  cases s.isDescending <;> exact placeholders_append_eq_zero hfield (by decide)

theorem limitPart (q : ReportQuery) : placeholders q.limitPart = 0 := by
  rw [limitPart_eq]
  split
  · exact placeholders_append_eq_zero (by decide) (placeholders_toString _)
  · decide

theorem dataLead (h : q.IsMarkFree) : placeholders q.dataLead = 0 := by
  have hitems : placeholders (", ".intercalate q.selectItems) = 0 :=
    isJoinable_noPlaceholders.intercalate (by decide) h.selectItems
  have hselect := placeholders_append_eq_zero (s := "SELECT ") (by decide) hitems
  exact placeholders_append_eq_zero (placeholders_append_eq_zero hselect (by decide)) h.dataset

theorem countLead (h : q.IsMarkFree) : placeholders q.countLead = 0 :=
  placeholders_append_eq_zero (by decide) h.dataset

theorem tail (h : q.IsMarkFree) : placeholders q.tail = 0 :=
  placeholders_append_eq_zero (placeholders_append_eq_zero h.groupPart h.orderPart) (limitPart q)

theorem binds (h : q.IsMarkFree) {lead : String} (hlead : placeholders lead = 0) (tail : String)
    {earlier later : List Condition} {c : Condition} (hconditions : q.conditions = earlier ++ c :: later)
    (hc : c.isWellShaped = true) :
    Statement.Binds ⟨lead ++ q.wherePart ++ tail, q.arguments⟩ c.text (Condition.boundByAll earlier) c.bound := by
  obtain ⟨right, hwhere⟩ := wherePart_append_cons hconditions hc
  have hfields := h.conditions
  rw [hconditions, List.forall_mem_append, List.forall_mem_cons] at hfields
  have hleft : placeholders (String.join ((earlier.filter Condition.isWellShaped).map fun c => c.text ++ " AND ")) =
      (Condition.boundByAll earlier).length := by
    have hand : placeholders " AND " = 0 := by decide
    rw [placeholders_join, List.map_map, ← Condition.sum_placeholders hfields.1]
    simp only [Function.comp_def, placeholders_append, hand, Nat.add_zero]
  refine ⟨lead ++ (" WHERE " ++
    String.join ((earlier.filter Condition.isWellShaped).map fun c => c.text ++ " AND ")), right ++ tail,
    Condition.boundByAll later, ?_, ?_, ?_, Condition.placeholders_text hfields.2.1 hc⟩
  · simp only [hwhere, String.append_assoc]
  · rw [arguments_eq, hconditions, Condition.boundByAll_append_cons earlier hc]
  · have hword : placeholders " WHERE " = 0 := by decide
    simp only [placeholders_append, hlead, hword, hleft, Nat.zero_add]

theorem placeholders_statement (h : q.IsMarkFree) {lead tail : String} (hlead : placeholders lead = 0)
    (htail : placeholders tail = 0) : placeholders (lead ++ q.wherePart ++ tail) = q.arguments.length := by
  rw [placeholders_append, placeholders_append, hlead, htail, h.wherePart, Nat.zero_add, Nat.add_zero]

end IsMarkFree

theorem wherePart_withoutMisshapen (q : ReportQuery) : q.withoutMisshapen.wherePart = q.wherePart := by
  rw [wherePart_eq, wherePart_eq, withoutMisshapen, List.filter_filter]
  simp only [Bool.and_self]

theorem arguments_withoutMisshapen (q : ReportQuery) : q.withoutMisshapen.arguments = q.arguments := by
  rw [arguments_eq, arguments_eq, Condition.boundByAll, Condition.boundByAll, withoutMisshapen, List.filter_filter]
  simp only [Bool.and_self]

theorem dataStatement_withoutMisshapen (q : ReportQuery) :
    q.withoutMisshapen.dataStatement = q.dataStatement := by
  rw [dataStatement, wherePart_withoutMisshapen, arguments_withoutMisshapen]
  rfl

theorem countStatement_withoutMisshapen (q : ReportQuery) :
    q.withoutMisshapen.countStatement = q.countStatement := by
  rw [countStatement, wherePart_withoutMisshapen, arguments_withoutMisshapen]
  rfl

theorem IsCompilable.withoutMisshapen (h : q.IsCompilable) : q.withoutMisshapen.IsCompilable where
  dataset := h.dataset
  selects := h.selects
  conjunctive c hc := h.conjunctive c (List.mem_filter.mp hc).1

/-- The two statements of a query have the same conditions and arguments, each argument at its own placeholder.
Conditions whose operand has the wrong shape take no part. -/
theorem compile_argumentsLineUp {data : Statement} (h : q.compile = .ok data) :
    ∃ count, q.compileCount = .ok count ∧ count.args = data.args ∧
      (∃ conditions, (q.conditions.filter Condition.isWellShaped = [] ∧ conditions = "" ∨
          q.conditions.filter Condition.isWellShaped ≠ [] ∧ conditions = " WHERE " ++
            " AND ".intercalate ((q.conditions.filter Condition.isWellShaped).map Condition.text)) ∧
        count.sql = "SELECT COUNT(*) FROM " ++ q.dataset ++ conditions ∧
        data.sql = "SELECT " ++ ", ".intercalate q.selectItems ++ " FROM " ++ q.dataset ++ conditions ++
          (q.groupPart ++ q.orderPart ++ q.limitPart)) ∧
      data.args = (q.conditions.filter Condition.isWellShaped).flatMap Condition.bound ∧
      (q.IsMarkFree →
        placeholders data.sql = data.args.length ∧ placeholders count.sql = count.args.length ∧
        ∀ earlier c later, q.conditions = earlier ++ c :: later → c.isWellShaped = true →
          data.Binds c.text (Condition.boundByAll earlier) c.bound ∧
            count.Binds c.text (Condition.boundByAll earlier) c.bound) ∧
      q.withoutMisshapen.compile = .ok data ∧ q.withoutMisshapen.compileCount = .ok count := by
  obtain ⟨hq, rfl⟩ := compile_eq_ok_iff.mp h
  refine ⟨q.countStatement, hq.compileCount_eq, rfl, ⟨q.wherePart, ?_, rfl, rfl⟩, arguments_eq q, ?_, ?_, ?_⟩
  · rw [wherePart_eq, part]
    split
    · rename_i hnone
      exact .inl ⟨by simpa using hnone, rfl⟩
    · rename_i hsome
      exact .inr ⟨by simpa using hsome, rfl⟩
  · intro hfree
    have hcount : q.countStatement = ⟨q.countLead ++ q.wherePart ++ "", q.arguments⟩ := by
      rw [String.append_empty]
      rfl
    refine ⟨hfree.placeholders_statement hfree.dataLead hfree.tail, ?_, ?_⟩
    · rw [hcount]
      exact hfree.placeholders_statement hfree.countLead (by decide)
    · intro earlier c later hconditions hc
      rw [hcount]
      exact ⟨hfree.binds hfree.dataLead q.tail hconditions hc, hfree.binds hfree.countLead "" hconditions hc⟩
  · rw [hq.withoutMisshapen.compile_eq, dataStatement_withoutMisshapen]
  · rw [hq.withoutMisshapen.compileCount_eq, countStatement_withoutMisshapen]

def markedQuery : ReportQuery where
  dataset := "projects"
  fields := [⟨"region", some "where", none, 0, none, false, none⟩]
  conditions :=
    [⟨"name", .like, .text "who?", none⟩, ⟨"created_at", .between, .list [.int 1, .int 2, .int 3], none⟩,
     ⟨"status", .isIn, .list [.text "?"], some .and⟩, ⟨"created_at", .between, .list [.int 1, .text "?"], none⟩,
     ⟨"region", .isNotNull, .null, none⟩]
  groupings := [⟨"region", .none⟩]
  sorts := [⟨"region", "desc"⟩]
  calculations := []
  limit := 5

theorem compile_argumentsLineUp_markedQuery :
    markedQuery.compile = .ok markedQuery.dataStatement ∧ markedQuery.IsMarkFree ∧
      ∃ count, markedQuery.compileCount = .ok count ∧ placeholders count.sql = count.args.length ∧
        count.Binds "created_at BETWEEN ? AND ?" [.text "%who?%", .list [.text "?"]] [.int 1, .text "?"] := by
  have hcompilable : markedQuery.IsCompilable := by
    constructor
    · decide
    · exact .inl (by simp [markedQuery])
    · simp [markedQuery, Condition.isDisjunctive]
  have hfree : markedQuery.IsMarkFree := by
    constructor <;> simp [markedQuery] <;> decide
  obtain ⟨count, hcount, -, -, -, hmarks, -⟩ := compile_argumentsLineUp hcompilable.compile_eq
  obtain ⟨-, hlength, hbinds⟩ := hmarks hfree
  have hbound := (hbinds (markedQuery.conditions.take 3) _ (markedQuery.conditions.drop 4) rfl rfl).2
  exact ⟨hcompilable.compile_eq, hfree, count, hcount, hlength, hbound⟩

end ReportQuery

end PortfolioReports
