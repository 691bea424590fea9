import PortfolioReports.Proofs.Query.Grammar

namespace PortfolioReports

theorem IsJoinable.isPart {P : String → Prop} (hP : IsJoinable P) {lead separator : String} (hlead : P lead)
    (hseparator : P separator) {isTerm : String → Prop} (hterms : ∀ t, isTerm t → P t) {s : String}
    (h : Grammar.IsPart lead separator isTerm s) : P s := by
  cases h with
  | absent => exact hP.empty
  | present _ hall => exact hP.append hlead (hP.intercalate hseparator fun t ht => hterms t (hall t ht))

def MadeOf (p : Char → Bool) (s : String) : Prop := ∀ c ∈ s.toList, p c = true

instance (p : Char → Bool) (s : String) : Decidable (MadeOf p s) :=
  decidable_of_iff (s.toList.all p = true) List.all_eq_true

namespace MadeOf

variable {p r : Char → Bool} {s t : String}

theorem append (hs : MadeOf p s) (ht : MadeOf p t) : MadeOf p (s ++ t) := by
  intro c hc
  rw [String.toList_append, List.mem_append] at hc
  exact hc.elim (hs c) (ht c)

theorem isJoinable (p : Char → Bool) : IsJoinable (MadeOf p) := ⟨by simp [MadeOf], append⟩

theorem mono (hpr : ∀ c, p c = true → r c = true) (h : MadeOf p s) : MadeOf r s := fun c hc => hpr c (h c hc)

theorem toString_nat (n : Nat) : MadeOf isIdentifierRest (toString n) := by
  intro c hc
  simp [isIdentifierRest, Char.isAlphanum, isDigit_of_mem_toString hc]

theorem of_isIdentifier (h : isIdentifier s = true) : MadeOf isIdentifierRest s := by
  unfold isIdentifier at h
  unfold MadeOf
  cases hs : s.toList with
  | nil => simp
  | cons c cs =>
    simp only [hs, Bool.and_eq_true, List.all_eq_true] at h
    obtain ⟨hstart, hrest⟩ := h
    have hfirst : isIdentifierRest c = true := by
      simp only [isIdentifierStart, isIdentifierRest, Char.isAlphanum, Bool.or_eq_true] at hstart ⊢
      exact hstart.imp_left .inl
    rw [List.forall_mem_cons]
    exact ⟨hfirst, hrest⟩

end MadeOf

def isPlainMark (c : Char) : Bool := isIdentifierRest c || " ,()=?*<>!".toList.contains c

def isMark (c : Char) : Bool := isPlainMark c || c = '\''

/-- Nothing in the text ends a statement, quotes a name, escapes what follows, opens or closes a comment, or
cannot be seen. -/
structure IsInert (s : String) : Prop where
  semicolon : ';' ∉ s.toList
  doubleQuote : '"' ∉ s.toList
  backslash : '\\' ∉ s.toList
  lineComment : ¬['-', '-'] <:+: s.toList
  numberSign : '#' ∉ s.toList
  commentStart : ¬['/', '*'] <:+: s.toList
  commentEnd : ¬['*', '/'] <:+: s.toList
  visible : ∀ c ∈ s.toList, 0x20 ≤ c.toNat ∧ c.toNat < 0x7f

theorem isAlphanum_eq (c : Char) : c.isAlphanum =
    (((65 ≤ c.val ∧ c.val ≤ 90 : Bool) || 97 ≤ c.val && c.val ≤ 122) || (48 ≤ c.val && c.val ≤ 57)) := rfl

theorem isMark_visible {c : Char} (h : isMark c = true) : 0x20 ≤ c.toNat ∧ c.toNat < 0x7f := by
  have hmarks : MadeOf (fun c => 0x20 ≤ c.toNat ∧ c.toNat < 0x7f) " ,()=?*<>!" := by decide
  simp only [isMark, isPlainMark, isIdentifierRest, Bool.or_eq_true, decide_eq_true_eq] at h
  rcases h with ((hword | rfl) | hmark) | rfl
  · rw [isAlphanum_eq] at hword
    simp [UInt32.le_iff_toNat_le] at hword
    omega
  · decide
  · exact of_decide_eq_true (hmarks c (by simpa using hmark))
  · decide

namespace MadeOf

variable {s : String}

theorem plain (h : MadeOf isIdentifierRest s) : MadeOf isPlainMark s := h.mono (by simp +contextual [isPlainMark])

theorem marks (h : MadeOf isPlainMark s) : MadeOf isMark s := h.mono (by simp +contextual [isMark])

theorem not_mem {p : Char → Bool} (h : MadeOf p s) {c : Char} (hc : p c = false) : c ∉ s.toList := by
  intro hmem
  rw [h c hmem] at hc
  cases hc

theorem not_infix {p : Char → Bool} (h : MadeOf p s) {c : Char} (hc : p c = false) {l : List Char} (hl : c ∈ l) :
    ¬l <:+: s.toList :=
  fun hsub => h.not_mem hc (hsub.subset hl)

theorem isInert (h : MadeOf isMark s) : IsInert s where
  semicolon := h.not_mem (by decide)
  doubleQuote := h.not_mem (by decide)
  backslash := h.not_mem (by decide)
  lineComment := h.not_infix (c := '-') (by decide) (by simp)
  numberSign := h.not_mem (by decide)
  commentStart := h.not_infix (c := '/') (by decide) (by simp)
  commentEnd := h.not_infix (c := '/') (by decide) (by simp)
  visible c hc := isMark_visible (h c hc)

end MadeOf

namespace Grammar

variable {d : Dataset} {s : String}

theorem plain_of_hasField (hd : d ∈ Catalog.datasets) (h : d.HasField s) : MadeOf isPlainMark s := by
  obtain ⟨f, hf, rfl⟩ := h
  exact (MadeOf.of_isIdentifier ((Catalog.identifiers hd).2 f hf)).plain

theorem plain_name (hd : d ∈ Catalog.datasets) : MadeOf isPlainMark d.name :=
  (MadeOf.of_isIdentifier (Catalog.identifiers hd).1).plain

theorem plain_of_unit {g : Grain} (h : g.unit? = some s) : MadeOf isPlainMark s := by
  cases g <;> cases h <;> decide

theorem IsColumn.plain (hd : d ∈ Catalog.datasets) (h : IsColumn d s) : MadeOf isPlainMark s := by
  cases h with
  | field hname => exact plain_of_hasField hd hname
  | aggregate a hname =>
    have haggregate : MadeOf isPlainMark (Vocabulary.name a) := by cases a <;> decide
    have hcall := haggregate.append (t := "(") (by decide)
    exact (hcall.append (plain_of_hasField hd hname)).append (by decide)

theorem IsItem.plain (hd : d ∈ Catalog.datasets) {name : String} (h : IsItem d [] s name) :
    MadeOf isPlainMark s ∧ MadeOf isPlainMark name := by
  cases h with
  | column hcolumn => exact ⟨hcolumn.plain hd, hcolumn.plain hd⟩
  | renamed hcolumn hname =>
    have hplain := (MadeOf.of_isIdentifier hname).plain
    have has := (hcolumn.plain hd).append (t := " AS ") (by decide)
    exact ⟨has.append hplain, hplain⟩
  | calculated hmem => cases hmem

theorem IsCondition.plain (hd : d ∈ Catalog.datasets) (h : IsCondition d s) : MadeOf isPlainMark s := by
  obtain ⟨o, hname⟩ := h
  have hending : MadeOf isPlainMark o.ending := by cases o <;> decide
  exact (plain_of_hasField hd hname).append hending

theorem IsGroupTerm.marks (hd : d ∈ Catalog.datasets) (h : IsGroupTerm d s) : MadeOf isMark s := by
  cases h with
  | field hname => exact (plain_of_hasField hd hname).marks
  | truncated g hunit hname =>
    have hopen : MadeOf isMark "date_trunc('" := by decide
    have hcall := (hopen.append (plain_of_unit hunit).marks).append (t := "', ") (by decide)
    exact (hcall.append (plain_of_hasField hd hname).marks).append (by decide)

theorem IsSortTerm.plain (hd : d ∈ Catalog.datasets) {names : List String}
    (hnames : ∀ name ∈ names, MadeOf isPlainMark name) (h : IsSortTerm d names s) : MadeOf isPlainMark s := by
  have hname : ∀ name, IsSortName d names name → MadeOf isPlainMark name :=
    fun name h => h.elim (plain_of_hasField hd) (hnames name)
  cases h with
  | ascending h => exact (hname _ h).append (by decide)
  | descending h => exact (hname _ h).append (by decide)

theorem IsLimit.plain (h : IsLimit s) : MadeOf isPlainMark s := by
  cases h with
  | absent => decide
  | present _ => exact MadeOf.append (by decide) (MadeOf.toString_nat _).plain

theorem IsDataSentence.eq_groupings (hd : d ∈ Catalog.datasets) (h : IsDataSentence d [] s) :
    ∃ left groupings right, s = left ++ groupings ++ right ∧ MadeOf isPlainMark left ∧ MadeOf isPlainMark right ∧
      IsPart " GROUP BY " ", " (IsGroupTerm d) groupings := by
  obtain ⟨-, hitems, hconditions, hgroupings, hsorts, hlimit⟩ := h
  rename_i items conditions groupings sorts limit
  have hselected : MadeOf isPlainMark (", ".intercalate (items.map Prod.fst)) := by
    apply (MadeOf.isJoinable _).intercalate (by decide)
    rw [List.forall_mem_map]
    exact fun i hi => ((hitems i hi).plain hd).1
  have hnames : ∀ name ∈ items.map Prod.snd, MadeOf isPlainMark name := by
    rw [List.forall_mem_map]
    exact fun i hi => ((hitems i hi).plain hd).2
  have hselect := (MadeOf.append (s := "SELECT ") (by decide) hselected).append (t := " FROM ") (by decide)
  have hwhere := (MadeOf.isJoinable _).isPart (by decide) (by decide) (fun _ => IsCondition.plain hd) hconditions
  have horder := (MadeOf.isJoinable _).isPart (by decide) (by decide) (fun _ => IsSortTerm.plain hd hnames) hsorts
  refine ⟨_, groupings, sorts ++ limit, ?_, (hselect.append (plain_name hd)).append hwhere,
    horder.append hlimit.plain, hgroupings⟩
  simp only [String.append_assoc]

theorem IsDataSentence.isInert (hd : d ∈ Catalog.datasets) (h : IsDataSentence d [] s) : IsInert s := by
  obtain ⟨left, groupings, right, rfl, hleft, hright, hgroupings⟩ := h.eq_groupings hd
  have hmarks := (MadeOf.isJoinable _).isPart (by decide) (by decide) (fun _ => IsGroupTerm.marks hd) hgroupings
  exact ((hleft.marks.append hmarks).append hright.marks).isInert

theorem IsCountSentence.plain (hd : d ∈ Catalog.datasets) (h : IsCountSentence d s) : MadeOf isPlainMark s := by
  obtain ⟨hconditions⟩ := h
  have hwhere := (MadeOf.isJoinable _).isPart (by decide) (by decide) (fun _ => IsCondition.plain hd) hconditions
  exact (MadeOf.append (by decide) (plain_name hd)).append hwhere

end Grammar

def QuotesEncloseUnits (s : String) : Prop :=
  ∀ left right, s.toList = left ++ '\'' :: right → ∃ unit : String, (∃ g : Grain, g.unit? = some unit) ∧
    ∃ before after, left = before ++ "date_trunc(".toList ∧ right = unit.toList ++ "', ".toList ++ after ∨
      left = before ++ "date_trunc('".toList ++ unit.toList ∧ right = ", ".toList ++ after

theorem append_eq_append_cons {α : Type} {a : α} {front rest left right : List α}
    (h : front ++ rest = left ++ a :: right) :
    (∃ middle, front = left ++ a :: middle ∧ right = middle ++ rest) ∨
      ∃ middle, left = front ++ middle ∧ rest = middle ++ a :: right := by
  rcases List.append_eq_append_iff.mp h with ⟨middle, hleft, hrest⟩ | ⟨middle, hfront, hright⟩
  · exact .inr ⟨middle, hleft, hrest⟩
  · cases middle with
    | nil =>
      rw [List.append_nil] at hfront
      exact .inr ⟨[], by simp [hfront], hright.symm⟩
    | cons b middle =>
      obtain ⟨rfl, htail⟩ := List.cons.inj hright
      exact .inl ⟨middle, hfront, htail⟩

theorem append_cons_eq_append_cons {α : Type} {a : α} {front rest left right : List α} (ha : a ∉ front)
    (h : front ++ a :: rest = left ++ a :: right) :
    left = front ∧ right = rest ∨ ∃ middle, left = front ++ a :: middle ∧ rest = middle ++ a :: right := by
  rcases append_eq_append_cons h with ⟨middle, hfront, -⟩ | ⟨_ | ⟨b, middle⟩, hleft, hrest⟩
  · simp [hfront] at ha
  · rw [List.append_nil] at hleft
    exact .inl ⟨hleft, (List.cons.inj hrest).2.symm⟩
  · obtain ⟨rfl, htail⟩ := List.cons.inj hrest
    exact .inr ⟨middle, hleft, htail⟩

namespace QuotesEncloseUnits

open Grammar

variable {d : Dataset} {s t : String}

theorem of_plain (h : MadeOf isPlainMark s) : QuotesEncloseUnits s := by
  intro left right hs
  have hquote : '\'' ∉ s.toList := h.not_mem (by decide)
  simp [hs] at hquote

theorem append (hs : QuotesEncloseUnits s) (ht : QuotesEncloseUnits t) : QuotesEncloseUnits (s ++ t) := by
  intro left right h
  rw [String.toList_append] at h
  rcases append_eq_append_cons h with ⟨middle, hfront, rfl⟩ | ⟨middle, rfl, hrest⟩
  · obtain ⟨unit, hunit, before, after, hsides⟩ := hs left middle hfront
    refine ⟨unit, hunit, before, after ++ t.toList, ?_⟩
    rcases hsides with ⟨hleft, rfl⟩ | ⟨hleft, rfl⟩
    · exact .inl ⟨hleft, by rw [List.append_assoc]⟩
    · exact .inr ⟨hleft, by rw [List.append_assoc]⟩
  · obtain ⟨unit, hunit, before, after, hsides⟩ := ht middle right hrest
    refine ⟨unit, hunit, s.toList ++ before, after, ?_⟩
    rcases hsides with ⟨rfl, hright⟩ | ⟨rfl, hright⟩
    · exact .inl ⟨by rw [List.append_assoc], hright⟩
    · exact .inr ⟨by simp only [List.append_assoc], hright⟩

theorem isJoinable : IsJoinable QuotesEncloseUnits := ⟨of_plain (by decide), append⟩

theorem of_isGroupTerm (hd : d ∈ Catalog.datasets) (h : IsGroupTerm d s) : QuotesEncloseUnits s := by
  cases h with
  | field hname => exact of_plain (plain_of_hasField hd hname)
  | @truncated name unit g hunit hname =>
    have hopen : '\'' ∉ "date_trunc(".toList := by decide
    have hinside : '\'' ∉ unit.toList := (plain_of_unit hunit).not_mem (by decide)
    have hclosed : '\'' ∉ ", ".toList ++ name.toList ++ ")".toList := by
      rw [← String.toList_append, ← String.toList_append]
      exact ((MadeOf.append (by decide) (plain_of_hasField hd hname)).append (by decide)).not_mem (p := isPlainMark)
        (by decide)
    intro left right h
    have htext : "date_trunc(".toList ++ '\'' :: (unit.toList ++ '\'' :: (", ".toList ++ name.toList ++ ")".toList)) =
        left ++ '\'' :: right := by
      rw [← h]
      simp
    -- The first two quotes are those around the unit; there is no third.
    rcases append_cons_eq_append_cons hopen htext with ⟨rfl, rfl⟩ | ⟨middle, rfl, hrest⟩
    · exact ⟨unit, ⟨g, hunit⟩, [], name.toList ++ ")".toList, .inl ⟨rfl, by simp⟩⟩
    · rcases append_cons_eq_append_cons hinside hrest with ⟨rfl, rfl⟩ | ⟨middle, rfl, hlast⟩
      · exact ⟨unit, ⟨g, hunit⟩, [], name.toList ++ ")".toList, .inr ⟨by simp, by simp⟩⟩
      · rw [hlast] at hclosed
        simp at hclosed

end QuotesEncloseUnits

theorem Grammar.IsDataSentence.quotesEncloseUnits {d : Dataset} {s : String} (hd : d ∈ Catalog.datasets)
    (h : IsDataSentence d [] s) : QuotesEncloseUnits s := by
  obtain ⟨left, groupings, right, rfl, hleft, hright, hgroupings⟩ := h.eq_groupings hd
  have hpart := QuotesEncloseUnits.isJoinable.isPart (.of_plain (by decide)) (.of_plain (by decide))
    (fun _ => .of_isGroupTerm hd) hgroupings
  exact ((QuotesEncloseUnits.of_plain hleft).append hpart).append (.of_plain hright)

namespace ReportQuery

open Grammar

variable {q : ReportQuery} {data : Statement}

/-- The gate keeps foreign text out: both statements of an admitted query are sentences over the dataset it
names. Without calculations nothing in them is trusted. -/
theorem validate_keepsLanguage (hadmitted : q.validate = .ok ()) (h : q.compile = .ok data) :
    ∃ d count, Catalog.dataset? q.dataset = some d ∧ d.name = q.dataset ∧ q.compileCount = .ok count ∧
      IsDataSentence d (q.calculations.map Calculation.expression) data.sql ∧ IsCountSentence d count.sql ∧
      (q.calculations = [] → IsInert data.sql ∧ IsInert count.sql ∧
        QuotesEncloseUnits data.sql ∧ '\'' ∉ count.sql.toList) := by
  obtain ⟨d, hq⟩ := validate_eq_ok_iff.mp hadmitted
  obtain ⟨hcompilable, rfl⟩ := compile_eq_ok_iff.mp h
  have hd := (Catalog.mem_of_dataset? hq.dataset).1
  have hcount := hq.isCountSentence.plain hd
  refine ⟨d, q.countStatement, hq.dataset, hq.name_eq, hcompilable.compileCount_eq, hq.isDataSentence,
    hq.isCountSentence, ?_⟩
  intro hnone
  have hsentence := hq.isDataSentence
  rw [hnone, List.map_nil] at hsentence
  exact ⟨hsentence.isInert hd, hcount.marks.isInert, hsentence.quotesEncloseUnits hd, hcount.not_mem (by decide)⟩

def hostileQuery : ReportQuery where
  dataset := "transactions"
  fields := [⟨"amount", some "total", some .sum, 0, some "'; --", false, some "/*"⟩,
    ⟨"id", none, some .count, 0, none, false, none⟩]
  conditions := [⟨"currency", .eq, .text "'; DROP TABLE transactions; --", some .and⟩,
    ⟨"id", .like, .text "\\\"", none⟩]
  groupings := [⟨"created_at", .month⟩, ⟨"currency", .none⟩]
  sorts := [⟨"total", "desc; --"⟩, ⟨"COUNT(id)", "DESC"⟩]
  calculations := []
  limit := 10

theorem validate_keepsLanguage_hostileQuery :
    hostileQuery.validate = .ok () ∧ hostileQuery.compile = .ok hostileQuery.dataStatement ∧
      IsInert hostileQuery.dataStatement.sql ∧ QuotesEncloseUnits hostileQuery.dataStatement.sql := by
  have hadmitted : hostileQuery.validate = .ok () := by rfl
  have hcompile : hostileQuery.compile = .ok hostileQuery.dataStatement := by rfl
  obtain ⟨_, _, -, -, -, -, -, hinert⟩ := validate_keepsLanguage hadmitted hcompile
  obtain ⟨hdata, -, hquotes, -⟩ := hinert rfl
  exact ⟨hadmitted, hcompile, hdata, hquotes⟩

end ReportQuery

end PortfolioReports
