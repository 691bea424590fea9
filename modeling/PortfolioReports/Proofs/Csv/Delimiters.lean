import PortfolioReports.Proofs.Csv.Reader
import PortfolioReports.Proofs.Settings

namespace PortfolioReports

namespace CsvDialect

variable {d : CsvDialect} {columns : List Column} {rows rows' : List Row}

/-- The same bytes come from tables with the same number of rows and the same texts in their cells only. -/
def IsUnambiguous (d : CsvDialect) : Prop :=
  ∀ columns : List Column, columns ≠ [] → ∀ rows rows' text text',
    d.encode rows columns = .ok text → d.encode rows' columns = .ok text' → text.toByteArray = text'.toByteArray →
      ∃ table, d.ShowsTable columns rows table ∧ d.ShowsTable columns rows' table

/-- The character may follow a field: it stands in quotes only, and is no quote itself. -/
structure Ends (d : CsvDialect) (x : Char) : Prop where
  special : d.needsQuotes [x] = true
  ne_quote : x ≠ d.quote

section Fields

variable {x x' : Char} {f f' rest rest' : List Char}

theorem bare_append_inj (hf : d.needsQuotes f = false) (hf' : d.needsQuotes f' = false) (hx : d.Ends x)
    (hx' : d.Ends x') (h : f ++ x :: rest = f' ++ x' :: rest') : f = f' ∧ x :: rest = x' :: rest' := by
  induction f generalizing f' with
  | nil =>
    cases f' with
    | nil => exact ⟨rfl, h⟩
    | cons c f' =>
      obtain rfl : x = c := (List.cons.inj h).1
      have hspecial := hx.special
      simp_all [needsQuotes]
  | cons c f ih =>
    cases f' with
    | nil =>
      obtain rfl : c = x' := (List.cons.inj h).1
      have hspecial := hx'.special
      simp_all [needsQuotes]
    | cons c' f' =>
      obtain ⟨rfl, hrest⟩ := List.cons.inj h
      simp only [needsQuotes, List.any_cons, Bool.or_eq_false_iff] at hf hf' ih
      obtain ⟨rfl, hsame⟩ := ih hf.2 hf'.2 hrest
      exact ⟨rfl, hsame⟩

theorem doubled_quote (q : Char) (f : List Char) : doubled q (q :: f) = q :: q :: doubled q f := by
  simp [doubled]

theorem doubled_of_ne {q c : Char} (hc : c ≠ q) (f : List Char) : doubled q (c :: f) = c :: doubled q f := by
  simp [doubled, hc]

theorem doubled_append_inj {q : Char} (hx : x ≠ q) (hx' : x' ≠ q)
    (h : doubled q f ++ q :: x :: rest = doubled q f' ++ q :: x' :: rest') :
    f = f' ∧ x :: rest = x' :: rest' := by
  have hstart : ∀ {y : Char} {g s t : List Char}, y ≠ q → ∀ c, q :: y :: s ≠ doubled q (c :: g) ++ t := by
    intro y g s t hy c heq
    by_cases hc : c = q
    · rw [hc, doubled_quote] at heq
      exact hy (by simp_all)
    · rw [doubled_of_ne hc] at heq
      exact hc (by simp_all)
  induction f generalizing f' with
  | nil =>
    cases f' with
    | nil => exact ⟨rfl, (List.cons.inj h).2⟩
    | cons c f' => exact absurd h (hstart hx c)
  | cons c f ih =>
    cases f' with
    | nil => exact absurd h.symm (hstart hx' c)
    | cons c' f' =>
      have hboth : c = c' ∧ doubled q f ++ q :: x :: rest = doubled q f' ++ q :: x' :: rest' := by
        by_cases hc : c = q <;> by_cases hc' : c' = q
        · simp_all [doubled_quote]
        · simp_all [doubled_quote, doubled_of_ne]
        · simp_all [doubled_quote, doubled_of_ne]
        · simp_all [doubled_of_ne]
      obtain ⟨rfl, hrest⟩ := hboth
      obtain ⟨rfl, hsame⟩ := ih hrest
      exact ⟨rfl, hsame⟩

theorem bare_append_ne_quote (hf : d.needsQuotes f = false) (hx : d.Ends x) (s : List Char) :
    f ++ x :: rest ≠ d.quote :: s := by
  cases f with
  | nil => exact fun heq => hx.ne_quote (List.cons.inj heq).1
  | cons c f =>
    rintro heq
    obtain rfl : c = d.quote := (List.cons.inj heq).1
    simp [needsQuotes] at hf

theorem escapeField_append_inj (hx : d.Ends x) (hx' : d.Ends x')
    (h : d.escapeField f ++ x :: rest = d.escapeField f' ++ x' :: rest') : f = f' ∧ x :: rest = x' :: rest' := by
  unfold escapeField at h
  split at h <;> split at h
  · have hquoted := (List.cons.inj h).2
    simp only [List.append_eq, List.append_assoc, List.singleton_append] at hquoted
    exact doubled_append_inj hx.ne_quote hx'.ne_quote hquoted
  · rename_i hbare
    exact absurd h.symm (bare_append_ne_quote (Bool.not_eq_true _ ▸ hbare) hx' _)
  · rename_i hbare _
    exact absurd h (bare_append_ne_quote (Bool.not_eq_true _ ▸ hbare) hx _)
  · rename_i hbare hbare'
    exact bare_append_inj (Bool.not_eq_true _ ▸ hbare) (Bool.not_eq_true _ ▸ hbare') hx hx' h

end Fields

structure IsTellable (d : CsvDialect) : Prop where
  delimiter_ne_quote : d.delimiter ≠ d.quote
  quote_ne_lf : d.quote ≠ '\n'
  quote_ne_cr : d.quote ≠ '\r'

theorem IsTellable.ends_delimiter (hd : d.IsTellable) : d.Ends d.delimiter :=
  ⟨by simp [needsQuotes], hd.delimiter_ne_quote⟩

theorem IsTellable.exists_ends_lineEnd (hd : d.IsTellable) : ∃ x rest, d.lineEnd.toList = x :: rest ∧ d.Ends x := by
  cases hcrlf : d.useCrlf with
  | true => exact ⟨'\r', ['\n'], by simp [lineEnd, hcrlf], by simp [needsQuotes], hd.quote_ne_cr.symm⟩
  | false => exact ⟨'\n', [], by simp [lineEnd, hcrlf], by simp [needsQuotes], hd.quote_ne_lf.symm⟩

theorem record_append_inj (hd : d.IsTellable) {fields fields' : List String} (hne : fields ≠ [])
    (hlength : fields.length = fields'.length) {rest rest' : List Char}
    (h : (d.record fields).toList ++ rest = (d.record fields').toList ++ rest') : fields = fields' ∧ rest = rest' := by
  obtain ⟨x, tail, hend, hx⟩ := hd.exists_ends_lineEnd
  induction fields generalizing fields' with
  | nil => exact absurd rfl hne
  | cons s fields ih =>
    obtain ⟨s', more, rfl⟩ := List.exists_cons_of_length_eq_add_one hlength.symm
    have hmore : fields.length = more.length := Nat.succ.inj hlength
    cases fields with
    | nil =>
      obtain rfl : more = [] := List.eq_nil_of_length_eq_zero hmore.symm
      rw [toList_record_singleton, toList_record_singleton, hend, List.append_assoc, List.append_assoc] at h
      obtain ⟨hfield, hrest⟩ := escapeField_append_inj hx hx h
      rw [String.toList_inj.mp hfield]
      exact ⟨rfl, List.append_cancel_left (List.cons.inj hrest).2⟩
    | cons t fields =>
      obtain ⟨t', more, rfl⟩ := List.exists_cons_of_length_eq_add_one hmore.symm
      rw [toList_record_cons_cons, toList_record_cons_cons, List.append_assoc, List.append_assoc] at h
      obtain ⟨hfield, hothers⟩ := escapeField_append_inj hd.ends_delimiter hd.ends_delimiter h
      obtain ⟨hfields, hrest⟩ := ih (List.cons_ne_nil _ _) hmore (List.cons.inj hothers).2
      rw [String.toList_inj.mp hfield, hfields]
      exact ⟨rfl, hrest⟩

theorem record_ne_empty (hd : d.IsTellable) (fields : List String) : (d.record fields).toList ≠ [] := by
  obtain ⟨x, tail, hend, -⟩ := hd.exists_ends_lineEnd
  simp [record, hend]

theorem join_records_inj (hd : d.IsTellable) {n : Nat} (hn : n ≠ 0) {table table' : List (List String)}
    (hwidth : ∀ fields ∈ table, fields.length = n) (hwidth' : ∀ fields ∈ table', fields.length = n)
    (h : String.join (table.map d.record) = String.join (table'.map d.record)) : table = table' := by
  induction table generalizing table' with
  | nil =>
    cases table' with
    | nil => rfl
    | cons fields' table' =>
      have hempty := congrArg String.toList h
      simp [String.join_cons, record_ne_empty hd] at hempty
  | cons fields table ih =>
    cases table' with
    | nil =>
      have hempty := congrArg String.toList h
      simp [String.join_cons, record_ne_empty hd] at hempty
    | cons fields' table' =>
      obtain ⟨hfirst, hrest⟩ := List.forall_mem_cons.mp hwidth
      obtain ⟨hfirst', hrest'⟩ := List.forall_mem_cons.mp hwidth'
      have hne : fields ≠ [] := List.ne_nil_of_length_pos (hfirst ▸ Nat.pos_of_ne_zero hn)
      have htext := congrArg String.toList h
      rw [List.map_cons, List.map_cons, String.join_cons, String.join_cons, String.toList_append,
        String.toList_append] at htext
      obtain ⟨hrecord, hrecords⟩ := record_append_inj hd hne (hfirst.trans hfirst'.symm) htext
      rw [hrecord, ih hrest hrest' (String.toList_inj.mp hrecords)]

theorem ShowsTable.length_eq {table : List (List String)} (h : d.ShowsTable columns rows table) :
    ∀ fields ∈ table, fields.length = columns.length := by
  induction h with
  | nil => exact List.forall_mem_nil _
  | cons hfields _ ih => exact List.forall_mem_cons.mpr ⟨hfields.length_eq.symm, ih⟩

theorem isUnambiguous_of_isTellable (hd : d.IsTellable) : d.IsUnambiguous := by
  intro columns hcolumns rows rows' text text' h h' hbytes
  obtain rfl := String.toByteArray_inj.mp hbytes
  obtain ⟨table, htable, htext⟩ := encode_eq_records (by rwa [Column.resolve_of_ne_nil hcolumns]) h
  obtain ⟨table', htable', htext'⟩ := encode_eq_records (by rwa [Column.resolve_of_ne_nil hcolumns]) h'
  rw [Column.resolve_of_ne_nil hcolumns] at htable htable' htext htext'
  have hwidth : ∀ {t : List (List String)}, (∀ fields ∈ t, fields.length = columns.length) →
      ∀ fields ∈ d.headerRecords columns ++ t, fields.length = columns.length := by
    intro t ht fields hfields
    rcases List.mem_append.mp hfields with hheader | hrow
    · unfold headerRecords at hheader
      split at hheader <;> simp_all
    · exact ht fields hrow
  have hsame := join_records_inj hd (List.length_eq_zero_iff.not.mpr hcolumns) (hwidth htable.length_eq)
    (hwidth htable'.length_eq) (htext.symm.trans htext')
  exact ⟨table, htable, List.append_cancel_left hsame ▸ htable'⟩

def twoColumns : List Column := [.ofKey "a", .ofKey "b"]

def pairRow (a b : String) : Row := ⟨[("a", .text a), ("b", .text b)]⟩

theorem encode_pairRow (d : CsvDialect) (a b : String) :
    d.encode [pairRow a b] twoColumns = .ok (d.headerOf twoColumns ++ d.record [a, b]) := by
  have hfields : twoColumns.mapM (d.fieldText (pairRow a b)) = .ok [a, b] := rfl
  have hresolve : Column.resolve twoColumns [pairRow a b] = twoColumns := rfl
  simp [encode, hresolve, rowText, hfields, bind, Except.bind, pure, Except.pure]

theorem eq_of_showsTable_pairRow {a b : String} {table : List (List String)}
    (h : d.ShowsTable twoColumns [pairRow a b] table) : table = [[a, b]] := by
  obtain ⟨fields, rest, hfields, hrest, rfl⟩ := List.forall₂_cons_left_iff.mp h
  obtain rfl := List.forall₂_nil_left_iff.mp hrest
  have hread := mapM_eq_ok_iff.mpr (hfields.imp fun _ _ => fieldText_eq_ok_iff.mpr)
  have hsame : twoColumns.mapM (d.fieldText (pairRow a b)) = .ok [a, b] := rfl
  rw [Except.ok.inj (hread.symm.trans hsame)]

theorem record_quote_swap (hd : d.delimiter = d.quote) :
    d.record [String.ofList [d.quote], ""] = d.record ["", String.ofList [d.quote]] := by
  refine String.toList_inj.mp ?_
  simp [toList_record_cons_cons, toList_record_singleton, escapeField, needsQuotes, doubled, hd]

theorem not_isUnambiguous_of_delimiter_eq_quote (hd : d.delimiter = d.quote) : ¬ d.IsUnambiguous := by
  intro hunambiguous
  let quote := String.ofList [d.quote]
  have hsame : d.headerOf twoColumns ++ d.record [quote, ""] = d.headerOf twoColumns ++ d.record ["", quote] := by
    rw [record_quote_swap hd]
  obtain ⟨table, htable, htable'⟩ := hunambiguous twoColumns (List.cons_ne_nil _ _) [pairRow quote ""]
    [pairRow "" quote] _ _ (d.encode_pairRow quote "") (d.encode_pairRow "" quote) (congrArg _ hsame)
  have htables : [[quote, ""]] = [["", quote]] :=
    (eq_of_showsTable_pairRow htable).symm.trans (eq_of_showsTable_pairRow htable')
  have hempty : [d.quote] = [] := by simpa [quote] using congrArg (fun t => t.head?.bind List.head?) htables
  cases hempty

theorem isUnambiguous_iff (hlf : d.quote ≠ '\n') (hcr : d.quote ≠ '\r') : d.IsUnambiguous ↔ d.delimiter ≠ d.quote :=
  ⟨fun h heq => not_isUnambiguous_of_delimiter_eq_quote heq h, fun h => isUnambiguous_of_isTellable ⟨h, hlf, hcr⟩⟩

end CsvDialect

namespace Settings

open CsvDialect

theorem csv_isUnambiguous_iff (base : Settings) (text : String) (h : validate "export.csv.delimiter" text = .ok ()) :
    ∃ s, base.apply .csvDelimiter text = .ok s ∧ (s.csv.IsUnambiguous ↔ text ≠ "\"") := by
  obtain ⟨c, hread⟩ : ∃ c, SettingKey.csvDelimiter.read text = .ok c := validate_name.mp h
  have htext : text = String.ofList [c] := by
    simp only [SettingKey.read] at hread
    split at hread
    · rename_i c' hchars
      cases hread
      rw [← hchars, String.ofList_toList]
    · cases hread
  refine ⟨base.set .csvDelimiter c, apply_eq_ok_iff.mpr ⟨c, hread, rfl⟩, ?_⟩
  have hquote : text = "\"" ↔ c = '"' := by
    rw [htext, ← String.toList_inj]
    simp
  rw [Ne, hquote]
  exact isUnambiguous_iff (show '"' ≠ '\n' by decide) (show '"' ≠ '\r' by decide)

theorem csv_isUnambiguous_iff_semicolon : validate "export.csv.delimiter" ";" = .ok () ∧
    ∃ s, standard.apply .csvDelimiter ";" = .ok s ∧ s.csv.IsUnambiguous := by
  have hvalid : validate "export.csv.delimiter" ";" = .ok () := rfl
  obtain ⟨s, hs, hiff⟩ := csv_isUnambiguous_iff standard ";" hvalid
  exact ⟨hvalid, s, hs, hiff.mpr (by decide)⟩

theorem quoteDelimiter_accepted_ambiguous : validate "export.csv.delimiter" "\"" = .ok () ∧
    ∃ s, standard.apply .csvDelimiter "\"" = .ok s ∧
      s.csv.encode [pairRow "\"" ""] twoColumns = .ok "a\"b\r\n\"\"\"\"\"\r\n" ∧
      s.csv.encode [pairRow "" "\""] twoColumns = .ok "a\"b\r\n\"\"\"\"\"\r\n" ∧
      ¬ ∃ table, s.csv.ShowsTable twoColumns [pairRow "\"" ""] table ∧
        s.csv.ShowsTable twoColumns [pairRow "" "\""] table := by
  refine ⟨rfl, standard.set .csvDelimiter '"', rfl, rfl, rfl, ?_⟩
  rintro ⟨table, htable, htable'⟩
  have htables : [["\"", ""]] = [["", "\""]] :=
    (eq_of_showsTable_pairRow htable).symm.trans (eq_of_showsTable_pairRow htable')
  exact absurd htables (by decide)

end Settings

end PortfolioReports
