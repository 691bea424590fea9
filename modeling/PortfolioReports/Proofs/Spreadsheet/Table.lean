import PortfolioReports.Proofs.Numeric.Rounding
import PortfolioReports.Proofs.Success
import PortfolioReports.Spreadsheet.Workbook

/-!
The words that hold rows and columns would wrap, but the sheet ends before they do.
-/

namespace PortfolioReports

inductive SheetCell.Shows : Cell → SheetCell → Prop
  | null : Shows .null ⟨.blank, .text⟩
  | bool (b : Bool) : Shows (.bool b) ⟨.flag b, .text⟩
  | int (n : Int64) : Shows (.int n) ⟨.number (Float.ofInt n.toInt), .number⟩
  | float {x : Float} (h : x.isNaN = false) : Shows (.float x) ⟨.number x, .number⟩
  | undefined {x : Float} (h : x.isNaN = true) : Shows (.float x) ⟨.text "#NUM!", .plain⟩
  | text (s : String) : Shows (.text s) ⟨if s = "" then .blank else .text s, .text⟩
  | list (items : List Cell) : Shows (.list items)
      ⟨if (Cell.list items).display = "" then .blank else .text (Cell.list items).display, .text⟩
  | date {d : Calendar.Date} {s : Serial} (h : Serial.ofMoment ⟨d, .midnight⟩ = .ok s) :
      Shows (.date d) ⟨.serial s, .date⟩
  | moment {m : Calendar.Moment} {s : Serial} (h : Serial.ofMoment m = .ok s) : Shows (.moment m) ⟨.serial s, .moment⟩

namespace SheetCell

theorem ofText_eq (format : CellFormat) (s : String) :
    ofText format s = ⟨if s = "" then .blank else .text s, format⟩ := by
  unfold ofText
  by_cases h : s = ""
  · subst h
    rfl
  · rw [if_neg h, if_neg (by simpa using h)]

theorem ofCell_shows {v : Cell} {c : SheetCell} (h : ofCell v = .ok c) : Shows v c := by
  cases v with
  | null =>
    cases h
    exact .null
  | bool b =>
    cases h
    exact .bool b
  | int n =>
    cases h
    have hnan : (Float.ofInt n.toInt).isNaN = false := Numeric.isNaN_ofInt (by
      have hlt := n.toInt_lt
      have hle := n.le_toInt
      omega)
    rw [ofFloat, hnan]
    exact .int n
  | float x =>
    cases h
    unfold ofFloat
    split
    · exact .undefined ‹_›
    · exact .float (Bool.eq_false_iff.mpr ‹_›)
  | text s =>
    cases h
    rw [ofText_eq]
    exact .text s
  | date d =>
    obtain ⟨s, hs, rfl⟩ := map_eq_ok_iff.mp h
    exact .date hs
  | moment m =>
    obtain ⟨s, hs, rfl⟩ := map_eq_ok_iff.mp h
    exact .moment hs
  | list items =>
    cases h
    rw [ofText_eq]
    exact .list items

end SheetCell

def Column.values (columns : List Column) (r : Row) : List Cell :=
  columns.map fun column => (r.get? column.key).getD .null

namespace Position

theorem ext_iff_toNat {p q : Position} : p = q ↔ p.row.toNat = q.row.toNat ∧ p.column.toNat = q.column.toNat := by
  cases p
  cases q
  simp [UInt32.toNat_inj, UInt16.toNat_inj]

theorem before_iff {p q : Position} : p.before q = true ↔
    p.row.toNat < q.row.toNat ∨ p.row.toNat = q.row.toNat ∧ p.column.toNat < q.column.toNat := by
  simp [before, UInt32.lt_iff_toNat_lt, UInt16.lt_iff_toNat_lt, UInt32.toNat_inj]

theorem before_trans {p q r : Position} (h : p.before q = true) (h' : q.before r = true) : p.before r = true := by
  rw [before_iff] at *
  omega

theorem before_of_not {p q : Position} (h : ¬q.before p = true) (hne : q ≠ p) : p.before q = true := by
  rw [before_iff] at *
  rw [ne_eq, ext_iff_toNat] at hne
  omega

theorem toNat_ofNat_column {j : ℕ} (h : j ≤ columnLimit) : (UInt16.ofNat j).toNat = j :=
  UInt16.toNat_ofNat_of_lt' (lt_of_le_of_lt h (by decide))

theorem toNat_ofNat_row {i : ℕ} (h : i ≤ rowLimit) : (UInt32.ofNat i).toNat = i :=
  UInt32.toNat_ofNat_of_lt' (lt_of_le_of_lt h (by decide))

theorem isOnSheet_iff {p : Position} :
    p.isOnSheet = true ↔ p.row.toNat < rowLimit ∧ p.column.toNat < columnLimit := by
  simp [isOnSheet]

end Position

namespace Sheet

variable {s s' : Sheet} {p : Position} {c : SheetCell}

def IsSorted (cells : List (Position × SheetCell)) : Prop := cells.Pairwise fun a b => b.1.before a.1 = true

theorem IsSorted.nodup {cells : List (Position × SheetCell)} (h : IsSorted cells) : (cells.map Prod.fst).Nodup := by
  refine List.pairwise_map.mpr (h.imp fun hbefore heq => ?_)
  rw [heq, Position.before_iff] at hbefore
  omega

theorem mem_putCell {cells : List (Position × SheetCell)} {e : Position × SheetCell} (h : e ∈ putCell p c cells) :
    e = (p, c) ∨ e ∈ cells := by
  induction cells with
  | nil => exact .inl (List.mem_singleton.mp h)
  | cons d rest ih =>
    unfold putCell at h
    split at h
    · exact List.mem_cons.mp h
    · split at h
      · exact (List.mem_cons.mp h).imp_right (List.mem_cons_of_mem _)
      · rcases List.mem_cons.mp h with rfl | h
        · exact .inr List.mem_cons_self
        · exact (ih h).imp_right (List.mem_cons_of_mem _)

theorem IsSorted.putCell {cells : List (Position × SheetCell)} (h : IsSorted cells) (p : Position) (c : SheetCell) :
    IsSorted (putCell p c cells) := by
  induction cells with
  | nil => exact List.pairwise_singleton _ _
  | cons d rest ih =>
    obtain ⟨hfirst, hrest⟩ := List.pairwise_cons.mp h
    unfold Sheet.putCell
    split
    · rename_i hbefore
      refine List.pairwise_cons.mpr ⟨List.forall_mem_cons.mpr ⟨hbefore, fun e he => ?_⟩, h⟩
      exact Position.before_trans (hfirst e he) hbefore
    · split
      · rename_i heq
        exact List.pairwise_cons.mpr ⟨fun e he => heq ▸ hfirst e he, hrest⟩
      · rename_i hnot hne
        refine List.pairwise_cons.mpr ⟨fun e he => ?_, ih hrest⟩
        rcases mem_putCell he with rfl | he
        · exact Position.before_of_not hnot hne
        · exact hfirst e he

theorem put_eq_ok_iff : s.put p c = .ok s' ↔
    p.isOnSheet = true ∧ c.content.isTooLong = false ∧ { s with cells := putCell p c s.cells } = s' := by
  unfold put
  cases p.isOnSheet <;> cases c.content.isTooLong <;> simp

/-- From one sheet to the next, these positions are filled, and nothing else is changed. -/
structure Fills (filled : Position → Option SheetCell) (s s' : Sheet) : Prop where
  cell?_eq : ∀ p, s'.cell? p = (filled p).or (s.cell? p)
  sorted : IsSorted s.cells → IsSorted s'.cells
  rest : { s' with cells := s.cells } = s

theorem Fills.refl {filled : Position → Option SheetCell} (h : ∀ p, filled p = none) : Fills filled s s :=
  ⟨fun p => by rw [h, Option.none_or], id, rfl⟩

theorem Fills.trans {f g filled : Position → Option SheetCell} {t : Sheet} (h : Fills f s s') (h' : Fills g s' t)
    (hfilled : ∀ p, filled p = (g p).or (f p)) : Fills filled s t := by
  refine ⟨fun p => ?_, h'.sorted ∘ h.sorted, ?_⟩
  · rw [h'.cell?_eq, h.cell?_eq, hfilled, Option.or_assoc]
  · rw [← h.rest, ← h'.rest]

theorem fills_put (h : s.put p c = .ok s') : Fills (fun q => if q = p then some c else none) s s' := by
  obtain ⟨-, -, rfl⟩ := put_eq_ok_iff.mp h
  refine ⟨fun q => ?_, fun hsorted => hsorted.putCell p c, rfl⟩
  rw [cell?, lookup_putCell]
  split <;> rfl

def rowCells (row : UInt32) (j : ℕ) (cells : List SheetCell) (p : Position) : Option SheetCell :=
  if p.row = row ∧ j ≤ p.column.toNat then cells[p.column.toNat - j]? else none

theorem putRow_fills {row : UInt32} {j : ℕ} {cells : List SheetCell} (h : s.putRow row j cells = .ok s')
    (hj : j ≤ Position.columnLimit) : Fills (rowCells row j cells) s s' ∧ j + cells.length ≤ Position.columnLimit ∧
      (cells ≠ [] → row.toNat < Position.rowLimit) := by
  induction cells generalizing j s with
  | nil =>
    cases h
    exact ⟨.refl fun p => by simp [rowCells], hj, fun hne => absurd rfl hne⟩
  | cons c cs ih =>
    obtain ⟨s₁, hput, hrest⟩ := bind_eq_ok_iff.mp h
    have hon := Position.isOnSheet_iff.mp (put_eq_ok_iff.mp hput).1
    have hcolumn := Position.toNat_ofNat_column hj
    rw [hcolumn] at hon
    obtain ⟨hfills, hfits, -⟩ := ih hrest hon.2
    refine ⟨(fills_put hput).trans hfills fun p => ?_, by rw [List.length_cons]; omega, fun _ => hon.1⟩
    have hposition : p = ⟨row, UInt16.ofNat j⟩ ↔ p.row = row ∧ p.column.toNat = j := by
      rw [Position.ext_iff_toNat, UInt32.toNat_inj, hcolumn]
    simp only [rowCells, hposition]
    rcases Nat.lt_trichotomy p.column.toNat j with hlt | heq | hgt
    · rw [if_neg (by omega), if_neg (by omega), if_neg (by omega)]
      rfl
    · rw [heq]
      simp
    · obtain ⟨k, hk⟩ : ∃ k, p.column.toNat - j = k + 1 := ⟨p.column.toNat - j - 1, by omega⟩
      have hk' : p.column.toNat - (j + 1) = k := by omega
      simp [hk, hk', show j ≤ p.column.toNat by omega, show j + 1 ≤ p.column.toNat by omega,
        show p.column.toNat ≠ j by omega]

def gridCells (row : ℕ) (grid : List (List SheetCell)) (p : Position) : Option SheetCell :=
  if row ≤ p.row.toNat then grid[p.row.toNat - row]?.bind (·[p.column.toNat]?) else none

theorem putRecord_fills {columns : List Column} (hcolumns : columns ≠ []) {row : UInt32} {r : Row}
    (h : s.putRecord row columns r = .ok s') :
    ∃ cells, List.Forall₂ SheetCell.Shows (Column.values columns r) cells ∧ Fills (rowCells row 0 cells) s s' ∧
      row.toNat < Position.rowLimit := by
  obtain ⟨cells, hcells, hput⟩ := bind_eq_ok_iff.mp h
  have hshown := mapM_eq_ok_iff.mp hcells
  obtain ⟨hfills, -, hrow⟩ := putRow_fills hput (Nat.zero_le _)
  refine ⟨cells, List.forall₂_map_left_iff.mpr (hshown.imp fun _ _ => SheetCell.ofCell_shows), hfills, hrow ?_⟩
  rintro rfl
  exact hcolumns (List.forall₂_nil_right_iff.mp hshown)

theorem putRecords_fills {columns : List Column} (hcolumns : columns ≠ []) {row : UInt32} {rows : List Row}
    (h : s.putRecords columns row rows = .ok s') (hrow : row.toNat ≤ Position.rowLimit) :
    ∃ grid, List.Forall₂ (fun r cells => List.Forall₂ SheetCell.Shows (Column.values columns r) cells) rows grid ∧
      Fills (gridCells row.toNat grid) s s' ∧ row.toNat + rows.length ≤ Position.rowLimit := by
  induction rows generalizing row s with
  | nil =>
    cases h
    exact ⟨[], .nil, .refl fun p => by simp [gridCells], hrow⟩
  | cons r rs ih =>
    obtain ⟨s₁, hrecord, hrest⟩ := bind_eq_ok_iff.mp h
    obtain ⟨cells, hcells, hfills, hon⟩ := putRecord_fills hcolumns hrecord
    have hnext : (row + 1).toNat = row.toNat + 1 := by
      have hlimit : Position.rowLimit < 2 ^ 32 := by decide
      rw [UInt32.toNat_add]
      exact Nat.mod_eq_of_lt (by rw [show (1 : UInt32).toNat = 1 from rfl]; omega)
    obtain ⟨grid, hgrid, hfills', hfits⟩ := ih hrest (hnext ▸ hon)
    rw [hnext] at hfills' hfits
    refine ⟨cells :: grid, .cons hcells hgrid, hfills.trans hfills' fun p => ?_, by rw [List.length_cons]; omega⟩
    simp only [gridCells, rowCells, Nat.zero_le, and_true, Nat.sub_zero, ← UInt32.toNat_inj]
    rcases Nat.lt_trichotomy p.row.toNat row.toNat with hlt | heq | hgt
    · rw [if_neg (by omega), if_neg (by omega), if_neg (by omega)]
      rfl
    · rw [heq]
      simp
    · obtain ⟨k, hk⟩ : ∃ k, p.row.toNat - row.toNat = k + 1 := ⟨p.row.toNat - row.toNat - 1, by omega⟩
      have hk' : p.row.toNat - (row.toNat + 1) = k := by omega
      rw [if_pos (by omega), if_pos (by omega), if_neg (by omega), hk, hk', List.getElem?_cons_succ, Option.or_none]

theorem setWidths_eq {j : ℕ} {widths : List Float} (h : s.setWidths j widths = .ok s') (hj : j ≤ Position.columnLimit) :
    j + widths.length ≤ Position.columnLimit ∧ { s' with widths := s.widths } = s := by
  induction widths generalizing j s with
  | nil =>
    cases h
    exact ⟨hj, rfl⟩
  | cons w ws ih =>
    obtain ⟨s₁, hset, hrest⟩ := bind_eq_ok_iff.mp h
    have hcolumn := Position.toNat_ofNat_column hj
    unfold setWidth at hset
    rw [hcolumn] at hset
    split at hset
    · rename_i hlt
      cases hset
      obtain ⟨hfits, hsame⟩ := ih hrest hlt
      refine ⟨by rw [List.length_cons]; omega, ?_⟩
      rw [Sheet.mk.injEq] at hsame
      obtain ⟨hname, hcells, -, hfilter, hfrozen⟩ := hsame
      rw [hname, hcells, hfilter, hfrozen]
    · cases hset

end Sheet

theorem rel_getElem? {α β : Type} {R : α → β → Prop} {l : List α} {l' : List β} (h : List.Forall₂ R l l') (i : ℕ) :
    Option.Rel R l[i]? l'[i]? := by
  induction h generalizing i with
  | nil => exact .none
  | cons hfirst _ ih =>
    cases i with
    | zero => exact .some hfirst
    | succ i => exact ih i

theorem rel_bind {α β γ δ : Type} {R : α → β → Prop} {S : γ → δ → Prop} {a : Option α} {b : Option β}
    {f : α → Option γ} {g : β → Option δ} (h : Option.Rel R a b) (hfg : ∀ x y, R x y → Option.Rel S (f x) (g y)) :
    Option.Rel S (a.bind f) (b.bind g) := by
  cases h with
  | none => exact .none
  | some hxy => exact hfg _ _ hxy

def WorkbookSetup.headerRows (setup : WorkbookSetup) : ℕ := if setup.includeHeader then 1 else 0

/-- The sheet holds a table with these columns and rows and nothing else: the labels, if there is a header, and below
them each row, as far as the positions of the sheet go. -/
structure Sheet.ShowsTable (setup : WorkbookSetup) (columns : List Column) (rows : List Row) (s : Sheet) : Prop where
  columns_le : columns.length ≤ Position.columnLimit
  rows_le : setup.headerRows + rows.length ≤ Position.rowLimit
  labels : setup.includeHeader = true → ∀ p : Position, p.row.toNat = 0 → s.cell? p =
    columns[p.column.toNat]?.map fun column => ⟨if column.label = "" then .blank else .text column.label, .label⟩
  values : ∀ (p : Position) (i : ℕ), p.row.toNat = setup.headerRows + i → Option.Rel SheetCell.Shows
    (rows[i]?.bind fun r => (Column.values columns r)[p.column.toNat]?) (s.cell? p)
  once : (s.cells.map Prod.fst).Nodup
  filter : s.filter?.map (fun last => (last.row.toNat, last.column.toNat)) =
    if setup.includeHeader ∧ setup.filterRows ∧ rows ≠ [] then some (rows.length, columns.length - 1) else none
  frozen : s.frozen = (setup.includeHeader && setup.freezeHeader)

namespace Sheet

variable {setup : WorkbookSetup} {columns : List Column} {rows : List Row}

def putLabels (setup : WorkbookSetup) (columns : List Column) (s : Sheet) : Except SheetFault Sheet :=
  if setup.includeHeader then s.putRow 0 0 (columns.map fun c => SheetCell.ofText .label c.label) else .ok s

def offerFilter (setup : WorkbookSetup) (columns : List Column) (rows : List Row) (s : Sheet) :
    Except SheetFault Sheet :=
  if setup.includeHeader && setup.filterRows && !rows.isEmpty then s.setFilter (lastOf columns rows) else .ok s

theorem fill_eq (s : Sheet) (hcolumns : Column.resolve columns rows ≠ []) : s.fill setup columns rows = (do
    let s ← s.putLabels setup (Column.resolve columns rows)
    let s ← s.putRecords (Column.resolve columns rows) (if setup.includeHeader then 1 else 0) rows
    let s ← s.setWidths 0 ((Column.resolve columns rows).map fun c => setup.widthOf c.key)
    let s ← s.offerFilter setup (Column.resolve columns rows) rows
    pure { s with frozen := setup.includeHeader && setup.freezeHeader }) := by
  unfold fill putLabels offerFilter
  dsimp only
  rw [if_neg (by simpa using hcolumns)]
  cases setup.includeHeader <;> cases setup.filterRows <;> cases rows <;> rfl

theorem putLabels_fills {s s' : Sheet} (h : s.putLabels setup columns = .ok s') :
    Fills (fun p => if setup.includeHeader = true ∧ p.row.toNat = 0 then columns[p.column.toNat]?.map fun column =>
      ⟨if column.label = "" then .blank else .text column.label, .label⟩ else none) s s' := by
  unfold putLabels at h
  cases hheader : setup.includeHeader with
  | false =>
    rw [hheader] at h
    cases h
    exact .refl fun p => by simp
  | true =>
    rw [hheader] at h
    obtain ⟨hfills, -, -⟩ := putRow_fills h (Nat.zero_le _)
    convert hfills using 1
    funext p
    simp [rowCells, ← UInt32.toNat_inj, SheetCell.ofText_eq]

theorem offerFilter_eq {s s' : Sheet} (h : s.offerFilter setup columns rows = .ok s') :
    { s with filter? := s'.filter? } = s' ∧ s'.filter? =
      if setup.includeHeader ∧ setup.filterRows ∧ rows ≠ [] then some (lastOf columns rows) else s.filter? := by
  unfold offerFilter setFilter at h
  split at h
  · rename_i hoffered
    split at h
    · cases h
      exact ⟨rfl, by simp_all⟩
    · cases h
  · rename_i hnot
    cases h
    exact ⟨rfl, by simp_all⟩

theorem fill_showsTable {name : String} {s' : Sheet} (hcolumns : Column.resolve columns rows ≠ [])
    (h : fill setup ⟨name, [], [], none, false⟩ columns rows = .ok s') :
    s'.name = name ∧ s'.ShowsTable setup (Column.resolve columns rows) rows := by
  rw [fill_eq _ hcolumns] at h
  generalize Column.resolve columns rows = resolved at *
  simp only [bind_eq_ok_iff] at h
  obtain ⟨s₁, hlabels, s₂, hrecords, s₃, hwidths, s₄, hfilter, h⟩ := h
  cases h
  have hstart : (if setup.includeHeader then 1 else 0 : UInt32).toNat = setup.headerRows := by
    unfold WorkbookSetup.headerRows
    split <;> rfl
  have hstart_le : setup.headerRows ≤ 1 := by
    unfold WorkbookSetup.headerRows
    split <;> decide
  have hlabeled := putLabels_fills hlabels
  obtain ⟨grid, hgrid, hrows, hfits⟩ := putRecords_fills hcolumns hrecords (hstart ▸ hstart_le.trans (by decide))
  obtain ⟨hwide, hwidened⟩ := setWidths_eq hwidths (Nat.zero_le _)
  obtain ⟨hfiltered, hlast⟩ := offerFilter_eq hfilter
  rw [hstart] at hrows hfits
  have hfilled := hlabeled.trans hrows fun _ => rfl
  have hcells : s₄.cells = s₂.cells := by
    rw [← hfiltered, ← hwidened]
  have hname : s₄.name = name := by
    rw [← hfiltered]
    exact (congrArg Sheet.name hwidened).trans (congrArg Sheet.name hfilled.rest)
  have hunfiltered : s₃.filter? = none := (congrArg Sheet.filter? hwidened).trans (congrArg Sheet.filter? hfilled.rest)
  have hcell : ∀ p : Position, s₄.cells.lookup p = (gridCells setup.headerRows grid p).or
      (if setup.includeHeader = true ∧ p.row.toNat = 0 then resolved[p.column.toNat]?.map fun column =>
        ⟨if column.label = "" then .blank else .text column.label, .label⟩ else none) := by
    intro p
    rw [hcells]
    exact (hfilled.cell?_eq p).trans Option.or_none
  refine ⟨hname, by simpa using hwide, hfits, fun hheader p hp => ?_, fun p i hp => ?_, ?_, ?_, rfl⟩
  · have hbelow : ¬setup.headerRows ≤ p.row.toNat := by simp [WorkbookSetup.headerRows, hheader, hp]
    refine (hcell p).trans ?_
    rw [gridCells, if_neg hbelow, if_pos ⟨hheader, hp⟩, Option.none_or]
  · have hlabel : ¬(setup.includeHeader = true ∧ p.row.toNat = 0) := by
      rintro ⟨hheader, hzero⟩
      rw [WorkbookSetup.headerRows, if_pos hheader] at hp
      omega
    have hvalue : s₄.cells.lookup p = grid[i]?.bind (·[p.column.toNat]?) := by
      rw [hcell, if_neg hlabel, Option.or_none, gridCells, if_pos (by omega), hp, Nat.add_sub_cancel_left]
    change Option.Rel _ _ (s₄.cells.lookup p)
    rw [hvalue]
    exact rel_bind (rel_getElem? hgrid i) fun _ _ hshown => rel_getElem? hshown _
  · have hsorted := hfilled.sorted List.Pairwise.nil
    exact hcells ▸ hsorted.nodup
  · rw [hlast, hunfiltered]
    split
    · rename_i hoffered
      have hone : setup.headerRows = 1 := by simp [WorkbookSetup.headerRows, hoffered.1]
      have hlength : resolved.length ≤ Position.columnLimit := by simpa using hwide
      simp only [Option.map_some, lastOf]
      rw [Position.toNat_ofNat_row (by omega), Position.toNat_ofNat_column (by omega)]
    · rfl

end Sheet

namespace WorkbookSetup

variable {setup : WorkbookSetup} {t : NamedTable} {sheet : Sheet}

theorem sheetOf_eq_ok_iff : setup.sheetOf t = .ok sheet ↔
    Sheet.checkName t.name = .ok () ∧ Sheet.fill setup ⟨t.name, [], [], none, false⟩ t.columns t.rows = .ok sheet := by
  unfold sheetOf Sheet.named
  simp only [bind_eq_ok_iff, map_eq_ok_iff]
  constructor
  · rintro ⟨_, ⟨⟨⟩, hname, rfl⟩, hfill⟩
    exact ⟨hname, hfill⟩
  · rintro ⟨hname, hfill⟩
    exact ⟨_, ⟨(), hname, rfl⟩, hfill⟩

theorem sheetOf_name (h : setup.sheetOf t = .ok sheet) : sheet.name = t.name := by
  have hfill := (sheetOf_eq_ok_iff.mp h).2
  by_cases hcolumns : Column.resolve t.columns t.rows = []
  · simp only [Sheet.fill, hcolumns, List.isEmpty_nil, if_true] at hfill
    cases hfill
    rfl
  · exact (Sheet.fill_showsTable hcolumns hfill).1

theorem workbook_eq_ok_iff {tables : List NamedTable} {w : Workbook} : setup.workbook tables = .ok w ↔
    ∃ created sheets, Serial.ofMoment setup.stamp = .ok created ∧ tables.mapM setup.sheetOf = .ok sheets ∧
      reusedName? (sheets.map Sheet.name) = none ∧
      ⟨created, setup.look, if sheets.isEmpty then [.empty] else sheets⟩ = w := by
  have hassemble : setup.workbook tables = .ok w ↔ setup.assemble tables = .ok w := by
    unfold workbook
    cases setup.assemble tables <;> simp
  rw [hassemble, assemble]
  simp only [bind_eq_ok_iff]
  constructor
  · rintro ⟨created, hcreated, sheets, hsheets, h⟩
    split at h
    · cases h
    · cases h
      exact ⟨created, sheets, hcreated, hsheets, ‹_›, rfl⟩
  · rintro ⟨created, sheets, hcreated, hsheets, hnames, rfl⟩
    exact ⟨created, hcreated, sheets, hsheets, by rw [hnames]; rfl⟩

theorem workbook_ok_or_error (setup : WorkbookSetup) (tables : List NamedTable) :
    (∃ w, setup.workbook tables = .ok w) ∨ ∃ cause, setup.workbook tables = .error (.render (.sheet cause)) := by
  unfold workbook
  cases setup.assemble tables with
  | ok w => exact .inl ⟨w, rfl⟩
  | error cause => exact .inr ⟨cause, rfl⟩

theorem singleSheet_eq_ok_iff {rows : List Row} {columns : List Column} {w : Workbook} :
    setup.singleSheet rows columns = .ok w ↔ ∃ created sheet, Serial.ofMoment setup.stamp = .ok created ∧
      setup.sheetOf ⟨setup.sheetName, columns, rows⟩ = .ok sheet ∧ ⟨created, setup.look, [sheet]⟩ = w := by
  rw [singleSheet, workbook_eq_ok_iff]
  simp only [mapM_eq_ok_iff, List.forall₂_cons_left_iff, List.forall₂_nil_left_iff]
  constructor
  · rintro ⟨created, _, hcreated, ⟨sheet, _, hsheet, rfl, rfl⟩, -, rfl⟩
    exact ⟨created, sheet, hcreated, hsheet, rfl⟩
  · rintro ⟨created, sheet, hcreated, hsheet, rfl⟩
    exact ⟨created, [sheet], hcreated, ⟨sheet, [], hsheet, rfl, rfl⟩, rfl, rfl⟩

theorem alone_eq_ok_iff {w : Workbook} :
    { setup with sheetName := t.name }.singleSheet t.rows t.columns = .ok { w with sheets := [sheet] } ↔
      Serial.ofMoment setup.stamp = .ok w.created ∧ setup.look = w.look ∧ setup.sheetOf t = .ok sheet := by
  rw [singleSheet_eq_ok_iff]
  constructor
  · rintro ⟨created, sheet', hcreated, hsheet, heq⟩
    rw [Workbook.mk.injEq] at heq
    obtain ⟨rfl, hlook, hsheets⟩ := heq
    cases hsheets
    exact ⟨hcreated, hlook, hsheet⟩
  · rintro ⟨hcreated, hlook, hsheet⟩
    exact ⟨w.created, sheet, hcreated, hsheet, by rw [← hlook]; rfl⟩

theorem map_name_eq {tables : List NamedTable} {sheets : List Sheet}
    (h : List.Forall₂ (fun t sheet => setup.sheetOf t = .ok sheet) tables sheets) :
    sheets.map Sheet.name = tables.map NamedTable.name := by
  induction h with
  | nil => rfl
  | cons hfirst _ ih => rw [List.map_cons, List.map_cons, ih, sheetOf_name hfirst]

theorem workbook_eq_ok_iff_alone {tables : List NamedTable} (htables : tables ≠ []) {w : Workbook} :
    setup.workbook tables = .ok w ↔ reusedName? (tables.map NamedTable.name) = none ∧
      List.Forall₂ (fun t sheet => { setup with sheetName := t.name }.singleSheet t.rows t.columns =
        .ok { w with sheets := [sheet] }) tables w.sheets := by
  simp only [workbook_eq_ok_iff, alone_eq_ok_iff, mapM_eq_ok_iff]
  constructor
  · rintro ⟨created, sheets, hcreated, hsheets, hnames, rfl⟩
    have hsome : ¬sheets.isEmpty = true := by
      rw [List.isEmpty_iff]
      rintro rfl
      exact htables (List.forall₂_nil_right_iff.mp hsheets)
    rw [if_neg hsome]
    exact ⟨map_name_eq hsheets ▸ hnames, hsheets.imp fun _ _ hsheet => ⟨hcreated, rfl, hsheet⟩⟩
  · rintro ⟨hnames, halone⟩
    have hsheets := halone.imp fun _ _ h => h.2.2
    obtain ⟨created, look, sheets⟩ := w
    cases halone with
    | nil => exact absurd rfl htables
    | cons hfirst hrest =>
      obtain ⟨hcreated, hlook, -⟩ := hfirst
      exact ⟨created, _, hcreated, hsheets, map_name_eq hsheets ▸ hnames, by rw [hlook]; rfl⟩

/-- A sheet alone is the table, or there is no workbook at all; and a workbook of several sheets has those that each
table has alone. -/
theorem exports_showTables (setup : WorkbookSetup) :
    (∀ rows columns, Column.resolve columns rows ≠ [] →
      (∀ w, setup.singleSheet rows columns = .ok w → ∃ sheet, w.sheets = [sheet] ∧ sheet.name = setup.sheetName ∧
        sheet.ShowsTable setup (Column.resolve columns rows) rows) ∧
      (Position.columnLimit < (Column.resolve columns rows).length ∨
          Position.rowLimit < setup.headerRows + rows.length →
        ∃ cause, setup.singleSheet rows columns = .error (.render (.sheet cause)))) ∧
    ∀ tables w, tables ≠ [] → (setup.workbook tables = .ok w ↔ reusedName? (tables.map NamedTable.name) = none ∧
      List.Forall₂ (fun t sheet => { setup with sheetName := t.name }.singleSheet t.rows t.columns =
        .ok { w with sheets := [sheet] }) tables w.sheets) := by
  have hshows : ∀ {rows columns w}, Column.resolve columns rows ≠ [] → setup.singleSheet rows columns = .ok w →
      ∃ sheet, w.sheets = [sheet] ∧ sheet.name = setup.sheetName ∧
        sheet.ShowsTable setup (Column.resolve columns rows) rows := by
    intro rows columns w hcolumns h
    obtain ⟨created, sheet, -, hsheet, rfl⟩ := singleSheet_eq_ok_iff.mp h
    exact ⟨sheet, rfl, Sheet.fill_showsTable hcolumns (sheetOf_eq_ok_iff.mp hsheet).2⟩
  refine ⟨fun rows columns hcolumns => ⟨fun w => hshows hcolumns, fun hlarge => ?_⟩, fun tables w htables => ?_⟩
  · rcases workbook_ok_or_error setup [⟨setup.sheetName, columns, rows⟩] with ⟨w, hw⟩ | herror
    · obtain ⟨sheet, -, -, hsheet⟩ := hshows hcolumns hw
      have hwide := hsheet.columns_le
      have hlong := hsheet.rows_le
      omega
    · exact herror
  · exact workbook_eq_ok_iff_alone htables

theorem exports_showTables_projects :
    let rows : List Row := [⟨[("name", .text "Fen")]⟩, ⟨[("area", .int 12), ("name", .text "Moor")]⟩]
    let columns : List Column := [⟨"name", "Name"⟩, ⟨"area", "Area"⟩]
    let tables : List NamedTable := [⟨"Fens", columns, rows⟩, ⟨"Rest", [], []⟩]
    Column.resolve columns rows ≠ [] ∧
      (∃ w sheet, standard.singleSheet rows columns = .ok w ∧ w.sheets = [sheet] ∧
        sheet.ShowsTable standard columns rows ∧ Option.Rel SheetCell.Shows (some (.int 12)) (sheet.cell? ⟨2, 1⟩)) ∧
      ∃ w, standard.workbook tables = .ok w ∧
        List.Forall₂ (fun t sheet => { standard with sheetName := t.name }.singleSheet t.rows t.columns =
          .ok { w with sheets := [sheet] }) tables w.sheets := by
  intro rows columns tables
  have hcolumns : Column.resolve columns rows ≠ [] := by decide
  obtain ⟨halone, htables⟩ := exports_showTables standard
  have hok : (standard.singleSheet rows columns).isOk = true ∧ (standard.workbook tables).isOk = true := by
    decide +kernel
  obtain ⟨w, hw⟩ := exists_eq_ok_of_isOk hok.1
  obtain ⟨w', hw'⟩ := exists_eq_ok_of_isOk hok.2
  obtain ⟨sheet, hsheet, -, hshows⟩ := (halone rows columns hcolumns).1 w hw
  exact ⟨hcolumns, ⟨w, sheet, hw, hsheet, hshows, hshows.values ⟨2, 1⟩ 1 rfl⟩, w', hw',
    ((htables _ w' (List.cons_ne_nil _ _)).mp hw').2⟩

end WorkbookSetup

end PortfolioReports
