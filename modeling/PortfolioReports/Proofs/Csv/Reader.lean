import Mathlib.Tactic.Common
import PortfolioReports.Csv.Writer
import PortfolioReports.Proofs.Csv.Stream
import PortfolioReports.Proofs.Success

/-!
A reader of the format that RFC 4180 describes, for any delimiter and quote. It refuses a quote in a bare field, text
after a closing quote, a CR that no LF follows, and a quoted field that is never closed.
-/

namespace PortfolioReports

namespace CsvReader

inductive Place where
  | recordStart
  | fieldStart
  | bare
  | quoted
  /-- After a quote inside a quoted field: the first of two, or the closing one. -/
  | quote
  | carriageReturn
deriving DecidableEq

end CsvReader

structure CsvReader where
  place : CsvReader.Place
  text : List Char
  fields : List String
  records : List (List String)

namespace CsvReader

def start : CsvReader := ⟨.recordStart, [], [], []⟩

def push (r : CsvReader) (place : Place) (c : Char) : CsvReader := { r with place, text := r.text ++ [c] }

def endField (r : CsvReader) : CsvReader :=
  { r with place := .fieldStart, text := [], fields := r.fields ++ [String.ofList r.text] }

def endRecord (r : CsvReader) : CsvReader :=
  ⟨.recordStart, [], [], r.records ++ [r.fields ++ [String.ofList r.text]]⟩

def separate? (delimiter : Char) (r : CsvReader) (c : Char) : Option CsvReader :=
  if c = delimiter then some r.endField
  else if c = '\n' then some r.endRecord
  else if c = '\r' then some { r with place := .carriageReturn }
  else none

def step? (delimiter quote : Char) (r : CsvReader) (c : Char) : Option CsvReader :=
  match r.place with
  | .recordStart | .fieldStart =>
    if c = quote then some { r with place := .quoted }
    else some ((r.separate? delimiter c).getD (r.push .bare c))
  | .bare => if c = quote then none else some ((r.separate? delimiter c).getD (r.push .bare c))
  | .quoted => some (if c = quote then { r with place := .quote } else r.push .quoted c)
  | .quote => if c = quote then some (r.push .quoted c) else r.separate? delimiter c
  | .carriageReturn => if c = '\n' then some r.endRecord else none

def run? (delimiter quote : Char) (r : CsvReader) (cs : List Char) : Option CsvReader :=
  cs.foldlM (step? delimiter quote) r

def finish? (r : CsvReader) : Option (List (List String)) :=
  match r.place with
  | .recordStart => some r.records
  | .fieldStart | .bare | .quote => some r.endRecord.records
  | .quoted | .carriageReturn => none

def read? (delimiter quote : Char) (s : String) : Option (List (List String)) :=
  (run? delimiter quote start s.toList).bind finish?

end CsvReader

structure CsvDialect.IsReadable (d : CsvDialect) : Prop where
  delimiter_ne_quote : d.delimiter ≠ d.quote
  delimiter_ne_lf : d.delimiter ≠ '\n'
  delimiter_ne_cr : d.delimiter ≠ '\r'
  quote_ne_lf : d.quote ≠ '\n'
  quote_ne_cr : d.quote ≠ '\r'

namespace CsvReader

variable {d : CsvDialect} {r : CsvReader}

theorem run?_append (delimiter quote : Char) (r : CsvReader) (cs cs' : List Char) :
    run? delimiter quote r (cs ++ cs') = (run? delimiter quote r cs).bind fun r' => run? delimiter quote r' cs' :=
  List.foldlM_append

theorem run?_cons (delimiter quote : Char) (r : CsvReader) (c : Char) (cs : List Char) :
    run? delimiter quote r (c :: cs) = (step? delimiter quote r c).bind fun r' => run? delimiter quote r' cs :=
  rfl

def Place.IsFresh : Place → Prop
  | .recordStart | .fieldStart => True
  | _ => False

def Place.IsComplete : Place → Prop
  | .quoted | .carriageReturn => False
  | _ => True

theorem Place.IsFresh.isComplete {p : Place} (h : p.IsFresh) : p.IsComplete := by
  cases p <;> simp_all [IsFresh, IsComplete]

theorem separate?_of_plain {c : Char} (hc : d.needsQuotes [c] = false) : r.separate? d.delimiter c = none := by
  simp only [CsvDialect.needsQuotes, List.any_cons, List.any_nil, Bool.or_false, Bool.or_eq_false_iff,
    decide_eq_false_iff_not] at hc
  simp [separate?, hc]

theorem run?_bare {cs : List Char} (hcs : d.needsQuotes cs = false) (text : List Char) :
    run? d.delimiter d.quote { r with place := .bare, text } cs =
      some { r with place := .bare, text := text ++ cs } := by
  induction cs generalizing text with
  | nil => simp [run?]
  | cons c cs ih =>
    simp only [CsvDialect.needsQuotes, List.any_cons, Bool.or_eq_false_iff] at hcs ih
    have hplain : d.needsQuotes [c] = false := by simpa [CsvDialect.needsQuotes] using hcs.1
    have hquote : c ≠ d.quote := by simpa using hcs.1.1.1.2
    have hstep : step? d.delimiter d.quote { r with place := .bare, text } c =
        some { r with place := .bare, text := text ++ [c] } := by
      simp [step?, hquote, separate?_of_plain hplain, push]
    rw [run?_cons, hstep, Option.bind_some, ih hcs.2, List.append_assoc, List.singleton_append]

theorem run?_doubled (delimiter quote : Char) (r : CsvReader) (cs text : List Char) :
    run? delimiter quote { r with place := .quoted, text } (CsvDialect.doubled quote cs) =
      some { r with place := .quoted, text := text ++ cs } := by
  induction cs generalizing text with
  | nil => simp [run?, CsvDialect.doubled]
  | cons c cs ih =>
    have hchar : run? delimiter quote { r with place := .quoted, text } (if c = quote then [c, c] else [c]) =
        some { r with place := .quoted, text := text ++ [c] } := by
      split <;> simp_all [run?, step?, push]
    rw [CsvDialect.doubled, List.flatMap_cons, run?_append, hchar, Option.bind_some]
    exact (ih (text ++ [c])).trans (by simp)

theorem run?_field (hfresh : r.place.IsFresh) (htext : r.text = []) (cs : List Char) :
    ∃ place : Place, place.IsComplete ∧
      run? d.delimiter d.quote r (d.escapeField cs) = some { r with place, text := cs } := by
  unfold CsvDialect.escapeField
  split
  · have hopen : step? d.delimiter d.quote r d.quote = some { r with place := .quoted, text := [] } := by
      cases hp : r.place <;> simp_all [step?, Place.IsFresh]
    refine ⟨.quote, trivial, ?_⟩
    rw [run?_cons, hopen, Option.bind_some, run?_append, run?_doubled]
    simp [run?, step?]
  · rename_i hplain
    cases cs with
    | nil =>
      obtain ⟨place, text, fields, records⟩ := r
      obtain rfl : text = [] := htext
      exact ⟨place, hfresh.isComplete, rfl⟩
    | cons c cs =>
      simp only [CsvDialect.needsQuotes, List.any_cons, Bool.not_eq_true, Bool.or_eq_false_iff] at hplain
      have hc : d.needsQuotes [c] = false := by simpa [CsvDialect.needsQuotes] using hplain.1
      have hquote : c ≠ d.quote := by simpa using hplain.1.1.1.2
      -- The first character decides that the field is bare.
      have hstep : step? d.delimiter d.quote r c = some { r with place := .bare, text := [c] } := by
        cases hp : r.place <;>
          simp_all [step?, Place.IsFresh, separate?_of_plain, push]
      refine ⟨.bare, trivial, ?_⟩
      rw [run?_cons, hstep, Option.bind_some, run?_bare hplain.2, List.singleton_append]

theorem step?_delimiter (hd : d.IsReadable) (h : r.place.IsComplete) :
    step? d.delimiter d.quote r d.delimiter = some r.endField := by
  have hquote := hd.delimiter_ne_quote
  cases hp : r.place <;> simp_all [step?, separate?, Place.IsComplete]

theorem run?_lineEnd (hd : d.IsReadable) (h : r.place.IsComplete) :
    run? d.delimiter d.quote r d.lineEnd.toList = some r.endRecord := by
  obtain ⟨-, hdlf, hdcr, hqlf, hqcr⟩ := hd
  cases hp : r.place <;> cases hcrlf : d.useCrlf <;>
    simp_all [CsvDialect.lineEnd, run?, step?, separate?, Place.IsComplete, endRecord, hdlf.symm, hdcr.symm,
      hqlf.symm, hqcr.symm]

end CsvReader

namespace CsvDialect

theorem toList_record_singleton (d : CsvDialect) (s : String) :
    (d.record [s]).toList = d.escapeField s.toList ++ d.lineEnd.toList := by
  simp [record, escape]

theorem toList_record_cons_cons (d : CsvDialect) (s s' : String) (fields : List String) :
    (d.record (s :: s' :: fields)).toList =
      d.escapeField s.toList ++ d.delimiter :: (d.record (s' :: fields)).toList := by
  simp [record, escape]

end CsvDialect

namespace CsvReader

variable {d : CsvDialect} {r : CsvReader}

theorem run?_record (hd : d.IsReadable) (hfresh : r.place.IsFresh) (htext : r.text = []) {fields : List String}
    (hfields : fields ≠ []) :
    run? d.delimiter d.quote r (d.record fields).toList =
      some ⟨.recordStart, [], [], r.records ++ [r.fields ++ fields]⟩ := by
  induction fields generalizing r with
  | nil => exact absurd rfl hfields
  | cons s fields ih =>
    obtain ⟨place, hplace, hfield⟩ := run?_field (d := d) hfresh htext s.toList
    cases fields with
    | nil =>
      rw [d.toList_record_singleton, run?_append, hfield, Option.bind_some, run?_lineEnd hd hplace]
      simp [endRecord]
    | cons s' fields =>
      have hrest := ih (r := endField ⟨place, s.toList, r.fields, r.records⟩) trivial rfl (List.cons_ne_nil s' fields)
      rw [d.toList_record_cons_cons, run?_append, hfield, Option.bind_some, run?_cons, step?_delimiter hd hplace,
        Option.bind_some, hrest]
      simp [endField]

theorem run?_records (hd : d.IsReadable) (records table : List (List String)) (htable : ∀ fields ∈ table, fields ≠ []) :
    run? d.delimiter d.quote ⟨.recordStart, [], [], records⟩ (String.join (table.map d.record)).toList =
      some ⟨.recordStart, [], [], records ++ table⟩ := by
  induction table generalizing records with
  | nil => simp [run?]
  | cons fields table ih =>
    have hrecord := run?_record (r := ⟨.recordStart, [], [], records⟩) hd trivial rfl (htable fields List.mem_cons_self)
    rw [List.map_cons, String.join_cons, String.toList_append, run?_append, hrecord, Option.bind_some,
      ih _ fun fields' h => htable fields' (List.mem_cons_of_mem fields h)]
    simp

theorem read?_records (hd : d.IsReadable) {table : List (List String)} (htable : ∀ fields ∈ table, fields ≠ []) :
    read? d.delimiter d.quote (String.join (table.map d.record)) = some table := by
  rw [read?, start, run?_records hd [] table htable]
  rfl

end CsvReader

namespace CsvDialect

variable {d : CsvDialect} {columns : List Column} {rows : List Row}

def Shows (d : CsvDialect) (row : Row) (c : Column) (field : String) : Prop :=
  match row.get? c.key with
  | some v => d.cellText v = .ok field
  | none => field = d.nullText

def ShowsTable (d : CsvDialect) (columns : List Column) : List Row → List (List String) → Prop :=
  List.Forall₂ fun row => List.Forall₂ (d.Shows row) columns

def headerRecords (d : CsvDialect) (columns : List Column) : List (List String) :=
  if d.includeHeader then [columns.map Column.label] else []

theorem fieldText_eq_ok_iff {row : Row} {c : Column} {field : String} :
    d.fieldText row c = .ok field ↔ d.Shows row c field := by
  unfold fieldText Shows
  cases row.get? c.key with
  | some v => rfl
  | none => rw [Except.ok.injEq, eq_comm]

theorem record_of_rowText {row : Row} {line : String} (h : d.rowText columns row = .ok line) :
    ∃ fields, List.Forall₂ (d.Shows row) columns fields ∧ line = d.record fields := by
  simp only [rowText, bind, Except.bind] at h
  split at h
  · cases h
  · rename_i fields hfields
    cases h
    exact ⟨fields, (mapM_eq_ok_iff.mp hfields).imp fun _ _ => fieldText_eq_ok_iff.mp, rfl⟩

theorem records_of_lines {lines : List String} (h : d.lines columns rows = .ok lines) :
    ∃ table, d.ShowsTable columns rows table ∧ lines = table.map d.record := by
  induction mapM_eq_ok_iff.mp h with
  | nil => exact ⟨[], .nil, rfl⟩
  | cons hrow hrows ih =>
    obtain ⟨fields, hfields, rfl⟩ := record_of_rowText hrow
    obtain ⟨table, htable, rfl⟩ := ih (mapM_eq_ok_iff.mpr hrows)
    exact ⟨fields :: table, .cons hfields htable, rfl⟩

theorem ShowsTable.fields_ne_nil (hcolumns : columns ≠ []) {table : List (List String)}
    (h : d.ShowsTable columns rows table) : ∀ fields ∈ table, fields ≠ [] := by
  induction h with
  | nil => simp
  | cons hfields _ ih =>
    simp only [List.forall_mem_cons]
    refine ⟨?_, ih⟩
    rintro rfl
    cases hfields
    exact hcolumns rfl

theorem encode_eq_records (hcolumns : Column.resolve columns rows ≠ []) {text : String}
    (h : d.encode rows columns = .ok text) :
    ∃ table, d.ShowsTable (Column.resolve columns rows) rows table ∧
      text = String.join ((d.headerRecords (Column.resolve columns rows) ++ table).map d.record) := by
  rw [encode_eq] at h
  cases hlines : d.lines (Column.resolve columns rows) rows with
  | error f => rw [hlines] at h; cases h
  | ok lines =>
    rw [hlines] at h
    obtain ⟨table, htable, rfl⟩ := records_of_lines hlines
    refine ⟨table, htable, ?_⟩
    have htext := (Except.ok.inj h).symm
    cases hheader : d.includeHeader <;>
      simpa [headerOf, headerRecords, header, hheader, hcolumns] using htext

theorem read?_of_encode (hd : d.IsReadable) (hcolumns : Column.resolve columns rows ≠ []) {text : String}
    (h : d.encode rows columns = .ok text) :
    ∃ table, d.ShowsTable (Column.resolve columns rows) rows table ∧
      CsvReader.read? d.delimiter d.quote text =
        some (d.headerRecords (Column.resolve columns rows) ++ table) := by
  obtain ⟨table, htable, rfl⟩ := encode_eq_records hcolumns h
  refine ⟨table, htable, CsvReader.read?_records hd ?_⟩
  intro fields hfields
  rcases List.mem_append.mp hfields with hheader | hrow
  · have hlabels : fields = (Column.resolve columns rows).map Column.label := by
      unfold headerRecords at hheader
      split at hheader <;> simp_all
    simpa [hlabels] using hcolumns
  · exact htable.fields_ne_nil hcolumns fields hrow

/-- A reader gets from what is written the labels and the cell texts of the rows, so rows whose cell texts
differ are never written as the same bytes. -/
theorem encode_readsBack (hd : d.IsReadable) (hcolumns : Column.resolve columns rows ≠ []) {text : String}
    (h : d.encode rows columns = .ok text) :
    ∃ table, d.ShowsTable (Column.resolve columns rows) rows table ∧
      CsvReader.read? d.delimiter d.quote text =
        some (d.headerRecords (Column.resolve columns rows) ++ table) ∧
      ∀ rows' columns' text', Column.resolve columns' rows' = Column.resolve columns rows →
        d.encode rows' columns' = .ok text' → text'.toByteArray = text.toByteArray →
        d.ShowsTable (Column.resolve columns rows) rows' table := by
  obtain ⟨table, htable, hread⟩ := read?_of_encode hd hcolumns h
  refine ⟨table, htable, hread, ?_⟩
  intro rows' columns' text' hsame h' hbytes
  obtain rfl := String.toByteArray_inj.mp hbytes
  -- Both tables are what the reader gets from one text, below the same header.
  obtain ⟨table', htable', hread'⟩ := read?_of_encode hd (hsame ▸ hcolumns) h'
  rw [hsame] at htable' hread'
  have htables : table' = table := List.append_cancel_left (Option.some.inj (hread'.symm.trans hread))
  exact htables ▸ htable'

def quotedRows : List Row :=
  [⟨[("a", .text "it's"), ("b", .text "one\r\ntwo")]⟩, ⟨[("a", .text ""), ("b", .text "''")]⟩,
   ⟨[("b", .text "→")]⟩]

def quotedDialect : CsvDialect := { standard with delimiter := '→', quote := '\'', useCrlf := false, nullText := "-" }

theorem encode_readsBack_quotedRows :
    quotedDialect.IsReadable ∧ Column.resolve [] quotedRows ≠ [] ∧
      quotedDialect.encode quotedRows [] = .ok "a→b\n'it''s'→'one\r\ntwo'\n→''''''\n-→'→'\n" ∧
      ∃ table, quotedDialect.ShowsTable (Column.resolve [] quotedRows) quotedRows table ∧
        CsvReader.read? '→' '\'' "a→b\n'it''s'→'one\r\ntwo'\n→''''''\n-→'→'\n" = some (["a", "b"] :: table) := by
  have hreadable : quotedDialect.IsReadable := by constructor <;> decide
  have hcolumns : Column.resolve [] quotedRows ≠ [] := by decide
  have htext : quotedDialect.encode quotedRows [] =
      .ok "a→b\n'it''s'→'one\r\ntwo'\n→''''''\n-→'→'\n" := by rfl
  obtain ⟨table, htable, hread, -⟩ := encode_readsBack hreadable hcolumns htext
  exact ⟨hreadable, hcolumns, htext, table, htable, hread⟩

end CsvDialect

end PortfolioReports
