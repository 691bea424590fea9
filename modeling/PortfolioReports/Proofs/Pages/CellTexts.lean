import PortfolioReports.Proofs.Numeric.Rational
import PortfolioReports.Proofs.Pages.Edges

namespace PortfolioReports

open Scalar (whole whole_rat clamp)

def halfEm (size : ℕ) : ℚ := size / 2 / (72 / (254 / 10))

section Lengths

variable {size n : ℕ} {w : ℚ}

theorem halfEm_pos (h : 0 < size) : 0 < halfEm size := by
  unfold halfEm
  positivity

theorem cellPadding_rat : (cellPadding : ℚ) = 3 / 2 := by
  show ((15 : ℕ) : ℚ) / ((Nat.pow 10 1 : ℕ) : ℚ) = 3 / 2
  norm_num

theorem emWidth_rat (size : ℕ) : (whole size * half / pointsPerMm : ℚ) = halfEm size := by
  show (size : ℚ) * (((5 : ℕ) : ℚ) / ((Nat.pow 10 1 : ℕ) : ℚ)) /
    (((72 : ℕ) : ℚ) / (((254 : ℕ) : ℚ) / ((Nat.pow 10 1 : ℕ) : ℚ))) = halfEm size
  norm_num [halfEm]
  ring

theorem textWidth_rat (n size : ℕ) : (textWidth n size : ℚ) = n * halfEm size := by
  rw [← emWidth_rat, textWidth, whole_rat]
  ring

theorem charsThatFit_rat (w : ℚ) (size : ℕ) : charsThatFit w size = ⌊(w - 3) / halfEm size⌋₊ := by
  have hpadding : (whole 2 * cellPadding : ℚ) = 3 := by
    rw [cellPadding_rat, whole_rat]
    norm_num
  rw [charsThatFit, emWidth_rat, hpadding, ← Int.floor_toNat]
  rfl

theorem lt_rat (x y : ℚ) : Scalar.lt x y = decide (x < y) := rfl

theorem max_rat (x y : ℚ) : Scalar.max x y = max x y := by
  rw [Scalar.max, lt_rat, Scalar.le_rat]
  rcases lt_or_ge y x with h | h
  · simp [h, h.le]
  · simp [h, not_lt.mpr h]

theorem clamp_rat_bounds {lo hi : ℚ} (h : lo ≤ hi) (a : ℚ) : lo ≤ clamp lo hi a ∧ clamp lo hi a ≤ hi := by
  rw [clamp, lt_rat, lt_rat]
  by_cases hlow : a < lo
  · simp [hlow, h]
  · by_cases hhigh : hi < a
    · simp [hlow, hhigh, h]
    · simp [hlow, hhigh, not_lt.mp hlow, not_lt.mp hhigh]

theorem columnWidths_bounds {labels : List String} {rows : List (List String)} {available : ℚ}
    (h : w ∈ columnWidths labels rows available) : 15 ≤ w ∧ w ≤ 60 := by
  obtain ⟨wanted, -, rfl⟩ := List.mem_map.mp h
  have hbounds : ((15 : ℕ) : ℚ) ≤ ((60 : ℕ) : ℚ) := by norm_num
  exact clamp_rat_bounds hbounds _

theorem four_le_charsThatFit (hpos : 0 < size) (hsize : size ≤ 9) (hw : 15 ≤ w) : 4 ≤ charsThatFit w size := by
  have hem : halfEm size ≤ halfEm 9 := by
    unfold halfEm
    gcongr
  have hfour : 4 * halfEm 9 ≤ 12 := by norm_num [halfEm]
  rw [charsThatFit_rat]
  refine Nat.le_floor ((le_div_iff₀ (halfEm_pos hpos)).mpr ?_)
  push_cast
  linarith

end Lengths

section Texts

variable {size n : ℕ} {w : ℚ} {text : String}

theorem length_truncate (hn : 3 ≤ n) (h : n < text.length) : (truncate n text).length = n := by
  have hdots : ("...").length = 3 := rfl
  rw [truncate, if_pos h, String.length_append, Text.takeChars, String.length_ofList, List.length_take,
    String.length_toList, hdots]
  omega

theorem exists_truncate_eq (hn : 3 ≤ n) (h : n < text.length) :
    ∃ head tail, text = head ++ tail ∧ tail ≠ "" ∧ truncate n text = head ++ "..." := by
  refine ⟨Text.takeChars (n - 3) text, String.ofList (text.toList.drop (n - 3)), ?_, fun hempty => ?_, if_pos h⟩
  · rw [Text.takeChars, ← String.ofList_append, List.take_append_drop, String.ofList_toList]
  · have hlength := congrArg String.length hempty
    rw [String.length_ofList, List.length_drop, String.length_toList, String.length_empty] at hlength
    omega

theorem fitToWidth_eq (h : 4 ≤ charsThatFit w size) (text : String) :
    fitToWidth text w size =
      if text.length ≤ charsThatFit w size then text else truncate (charsThatFit w size) text := by
  have hwide : ¬charsThatFit w size < 4 := not_lt.mpr h
  simp only [fitToWidth, hwide, or_false]

theorem length_fitToWidth_le (h : 4 ≤ charsThatFit w size) (text : String) :
    (fitToWidth text w size).length ≤ charsThatFit w size := by
  rw [fitToWidth_eq h]
  split
  · assumption
  · rename_i hlong
    exact (length_truncate (by omega) (not_le.mp hlong)).le

end Texts

/-- The box shows what fits it of the text, half an em to a character, and within its padding. -/
structure Box.Fits (b : Box ℚ) (size : ℕ) (text : String) : Prop where
  size_eq : b.label.size = size
  width_ge : 15 ≤ b.width
  width_le : b.width ≤ 60
  length_le : (b.label.text.length : ℚ) ≤ (b.width - 3) / halfEm size
  starts : b.x + 3 / 2 ≤ b.label.x
  ends : b.label.x + b.label.text.length * halfEm size ≤ b.x + b.width - 3 / 2
  whole : (text.length : ℚ) ≤ (b.width - 3) / halfEm size → b.label.text = text
  cut : (b.width - 3) / halfEm size < text.length → b.label.text.length = ⌊(b.width - 3) / halfEm size⌋₊ ∧
    ∃ head tail, text = head ++ tail ∧ tail ≠ "" ∧ b.label.text = head ++ "..."

section Boxes

variable {size : ℕ} {b : Box ℚ} {text : String}

theorem Box.fits_of_label (hpos : 0 < size) (hsize : size ≤ 9) (hwidth : 15 ≤ b.width ∧ b.width ≤ 60)
    (hlabel : b.label.size = size ∧ b.label.text = fitToWidth text b.width size) (hstarts : b.x + 3 / 2 ≤ b.label.x)
    (hmiddle : b.label.x ≤ b.x + max ((b.width - b.label.text.length * halfEm size) / 2) (3 / 2)) :
    b.Fits size text := by
  obtain ⟨hwide, hnarrow⟩ := hwidth
  obtain ⟨hsame, htext⟩ := hlabel
  have hem := halfEm_pos hpos
  have hfour := four_le_charsThatFit hpos hsize hwide
  have hroom : 0 ≤ (b.width - 3) / halfEm size := div_nonneg (by linarith) hem.le
  have hfit : (b.label.text.length : ℚ) ≤ (b.width - 3) / halfEm size := by
    rw [← Nat.le_floor_iff hroom, ← charsThatFit_rat, htext]
    exact length_fitToWidth_le hfour text
  have hextent : b.label.text.length * halfEm size ≤ b.width - 3 := (le_div_iff₀ hem).mp hfit
  refine ⟨hsame, hwide, hnarrow, hfit, hstarts, ?_, fun hshort => ?_, fun hlong => ?_⟩
  · have hindent : max ((b.width - b.label.text.length * halfEm size) / 2) (3 / 2) ≤
        b.width - 3 / 2 - b.label.text.length * halfEm size := max_le (by linarith) (by linarith)
    linarith
  · rw [← Nat.le_floor_iff hroom, ← charsThatFit_rat] at hshort
    rw [htext, fitToWidth_eq hfour, if_pos hshort]
  · rw [← Nat.floor_lt hroom, ← charsThatFit_rat] at hlong
    rw [htext, fitToWidth_eq hfour, if_neg (not_le.mpr hlong), ← charsThatFit_rat]
    exact ⟨length_truncate (by omega) hlong, exists_truncate_eq (by omega) hlong⟩

theorem headerBox_fits (s : PageSetup ℚ) (y x : ℚ) {w : ℚ} (hw : 15 ≤ w ∧ w ≤ 60) (text : String) :
    (headerBox s y x w text).Fits 9 text := by
  have hlabel : (headerBox s y x w text).label.x =
      x + max ((w - (fitToWidth text w 9).length * halfEm 9) / 2) (3 / 2) := by
    rw [← textWidth_rat, ← cellPadding_rat, ← max_rat]
    rfl
  refine Box.fits_of_label (by decide) le_rfl hw ⟨rfl, rfl⟩ ?_ hlabel.le
  rw [hlabel]
  exact add_le_add_right (le_max_right _ _) x

theorem dataBox_fits (fill : Rgb) (y x : ℚ) {w : ℚ} (hw : 15 ≤ w ∧ w ≤ 60) (text : String) :
    (dataBox fill y x w text).Fits 8 text := by
  have hlabel : (dataBox fill y x w text).label.x = x + 3 / 2 := congrArg (x + ·) cellPadding_rat
  refine Box.fits_of_label (by decide) (by decide) hw ⟨rfl, rfl⟩ hlabel.ge ?_
  rw [hlabel]
  exact add_le_add_right (le_max_right _ _) x

end Boxes

namespace Block

def IsRow {α : Type} : Block α → Prop
  | .headerRow _ | .dataRow .. => True
  | _ => False

def DrawsRow {α : Type} [Scalar α] (s : PageSetup α) (rows : List Row) (columns : List Column) (b : Block α) : Prop :=
  let shown := Column.resolve columns rows
  let widths := columnWidths (shown.map Column.label) (rows.map (Column.texts shown)) s.printableWidth
  (∃ y, b = .headerRow (boxesOf s.margins.left widths (shown.map Column.label) (headerBox s y))) ∨
    ∃ y i r, rows[i]? = some r ∧
      b = .dataRow i (boxesOf s.margins.left widths (Column.texts shown r) (dataBox (rowFill s i) y))

def ShowsFitting (columns : List Column) (rows : List Row) : Block ℚ → Prop
  | .headerRow boxes => List.Forall₂ (fun col b => b.Fits 9 col.label) columns boxes
  | .dataRow i boxes =>
    ∃ r, rows[i]? = some r ∧ List.Forall₂ (fun text b => b.Fits 8 text) (Column.texts columns r) boxes
  | _ => False

end Block

theorem forall₂_boxesOf {α : Type} [Scalar α] {P : String → Box α → Prop} {box : α → α → String → Box α}
    {widths : List α} {texts : List String} (hbox : ∀ x, ∀ w ∈ widths, ∀ text, P text (box x w text))
    (hlength : widths.length = texts.length) (left : α) : List.Forall₂ P texts (boxesOf left widths texts box) := by
  induction widths generalizing texts left with
  | nil =>
    cases List.length_eq_zero_iff.mp hlength.symm
    exact .nil
  | cons w ws ih =>
    obtain ⟨hfirst, hrest⟩ : (∀ x text, P text (box x w text)) ∧ ∀ x, ∀ w ∈ ws, ∀ text, P text (box x w text) :=
      ⟨fun x => hbox x w List.mem_cons_self, fun x w hw => hbox x w (List.mem_cons_of_mem _ hw)⟩
    cases texts with
    | nil => cases hlength
    | cons text texts => exact .cons (hfirst left text) (ih hrest (Nat.succ.inj hlength) (left + w))

theorem Block.DrawsRow.showsFitting {s : PageSetup ℚ} {rows : List Row} {columns : List Column} {b : Block ℚ}
    (h : b.DrawsRow s rows columns) : b.ShowsFitting (Column.resolve columns rows) rows := by
  have hlength := length_columnWidths ((Column.resolve columns rows).map Column.label)
    (rows.map (Column.texts (Column.resolve columns rows))) s.printableWidth
  rcases h with ⟨y, rfl⟩ | ⟨y, i, r, hr, rfl⟩
  · have hheader := forall₂_boxesOf (P := fun text b => b.Fits 9 text)
      (fun x w hw text => headerBox_fits s y x (columnWidths_bounds hw) text) hlength s.margins.left
    exact List.forall₂_map_left_iff.mp hheader
  · refine ⟨r, hr, forall₂_boxesOf (fun x w hw text => dataBox_fits _ y x (columnWidths_bounds hw) text) ?_ _⟩
    rw [hlength, List.length_map, Column.texts, List.length_map]

namespace Canvas

variable {α : Type} [Scalar α] {p : Block α → Prop} {c : Canvas α} {s : PageSetup α}

theorem All.table_drawn (hc : c.All p) {rows : List Row} {columns : List Column}
    (hrows : ∀ b, b.DrawsRow s rows columns → p b) : (c.table s rows columns).All p := by
  unfold Canvas.table
  dsimp only
  split
  · exact hc
  · refine All.dataRows (Q := fun _ => True) ?_ (fun _ _ _ => trivial) ?_ trivial ?_ fun _ => trivial
    · intro y k texts htexts _
      rw [List.getElem?_map, Option.map_eq_some_iff] at htexts
      obtain ⟨r, hr, rfl⟩ := htexts
      exact hrows _ (.inr ⟨y, 0 + k, r, by rwa [Nat.zero_add], rfl⟩)
    · exact hrows _ (.inl ⟨_, rfl⟩)
    · exact hc.add (hrows _ (.inl ⟨_, rfl⟩))

theorem All.summaryEntries_drawn (hc : c.All p) (hentry : ∀ key value, p (.summaryEntry key value)) (col : ℕ)
    (entries : List (String × Cell)) : (Canvas.summaryEntries s c col entries).All p := by
  induction entries generalizing c col with
  | nil =>
    unfold Canvas.summaryEntries
    split
    · exact hc
    · exact hc
  | cons entry rest ih =>
    unfold Canvas.summaryEntries
    dsimp only
    split
    · exact ih (hc.add (hentry _ _)) 1
    · exact ih (c := (c.add _).down _) (hc.add (hentry _ _)) 0

theorem All.summary_drawn (hc : c.All p) (hline : ∀ l, p (.line l))
    (hentry : ∀ key value, p (.summaryEntry key value)) (r : Row) : (c.summary s r).All p :=
  (hc.textLine hline s _ _ _ _ _).summaryEntries_drawn hentry 0 r.cells

theorem All.addSection_drawn (hc : c.All p) (hline : ∀ l, p (.line l)) {part : ReportSection}
    (hrows : ∀ b, b.DrawsRow s part.rows part.columns → p b) : (s.addSection c part).All p := by
  have hbroken : (c.breakUnless s (whole 10)).All p := by
    unfold Canvas.breakUnless
    split
    · exact hc.turn s
    · exact hc
  have htitle := hbroken.textLine hline s part.title .bold 14 black (whole 10)
  have hbelow : ∀ c : Canvas α, c.All p →
      (if part.rows.isEmpty then c else c.table s part.rows part.columns).All p := by
    intro c hc
    split
    · exact hc
    · exact hc.table_drawn hrows
  unfold PageSetup.addSection
  apply hbelow
  cases part.description? with
  | none => exact htitle
  | some d =>
    dsimp only
    split
    · exact htitle
    · exact htitle.textLine hline s d .regular 10 darkGray (whole 5)

theorem All.addSections_drawn (hc : c.All p) (hline : ∀ l, p (.line l)) {parts : List ReportSection}
    (hrows : ∀ part ∈ parts, ∀ b, b.DrawsRow s part.rows part.columns → p b) : (s.addSections c parts).All p := by
  induction parts generalizing c with
  | nil => exact hc
  | cons part rest ih =>
    obtain ⟨hpart, hrest⟩ := List.forall_mem_cons.mp hrows
    have hdrawn := hc.addSection_drawn hline hpart
    cases rest with
    | nil => exact hdrawn
    | cons next rest => exact ih (c := (s.addSection c part).down _) hdrawn hrest

end Canvas

namespace PageSetup

theorem tablePages_showFitting (s : PageSetup ℚ) (rows : List Row) (columns : List Column) :
    ∀ b ∈ (s.tablePages rows columns).flatten, b.IsRow → b.ShowsFitting (Column.resolve columns rows) rows := by
  have hbegin : s.begin.All fun b => b.IsRow → b.ShowsFitting (Column.resolve columns rows) rows :=
    Canvas.all_begin (fun _ => False.elim) s
  exact (hbegin.table_drawn fun b hb _ => hb.showsFitting).finish (fun _ => False.elim) s

theorem summaryPages_showFitting (s : PageSetup ℚ) (summary : Row) (rows : List Row) (columns : List Column) :
    ∀ b ∈ (s.summaryPages summary rows columns).flatten, b.IsRow →
      b.ShowsFitting (Column.resolve columns rows) rows := by
  have hbegin : s.begin.All fun b => b.IsRow → b.ShowsFitting (Column.resolve columns rows) rows :=
    Canvas.all_begin (fun _ => False.elim) s
  have hsummary := hbegin.summary_drawn (s := s) (fun _ => False.elim) (fun _ _ => False.elim) summary
  exact (hsummary.table_drawn fun b hb _ => hb.showsFitting).finish (fun _ => False.elim) s

theorem sectionPages_showFitting (s : PageSetup ℚ) (parts : List ReportSection) :
    ∀ b ∈ (s.sectionPages parts).flatten, b.IsRow →
      ∃ part ∈ parts, b.ShowsFitting (Column.resolve part.columns part.rows) part.rows := by
  have hbegin : s.begin.All fun b => b.IsRow →
      ∃ part ∈ parts, b.ShowsFitting (Column.resolve part.columns part.rows) part.rows :=
    Canvas.all_begin (fun _ => False.elim) s
  have hparts := hbegin.addSections_drawn (s := s) (fun _ => False.elim)
    fun part hpart b hb _ => ⟨part, hpart, hb.showsFitting⟩
  exact hparts.finish (fun _ => False.elim) s

/-- Every column is wide enough for four characters, so wherever a table is drawn, and in all the documents that have
tables, the texts in its columns are cut to what fits, and no text that does not fit is left whole. -/
theorem cellTexts_fit :
    (∀ labels rows, ∀ available : ℚ, ∀ w ∈ columnWidths labels rows available,
      (15 ≤ w ∧ w ≤ 60) ∧ (∀ size ∈ [8, 9], 4 ≤ charsThatFit w size) ∧
        (∀ s y x text, (headerBox s y x w text).Fits 9 text) ∧ ∀ fill y x text, (dataBox fill y x w text).Fits 8 text) ∧
    (∀ (s : PageSetup ℚ) (c : Canvas ℚ) rows columns, ∀ b ∈ (c.table s rows columns).pages.flatten,
      b ∈ c.pages.flatten ∨ b.ShowsFitting (Column.resolve columns rows) rows) ∧
    ∀ s : PageSetup ℚ, (∀ rows columns, ∀ b ∈ (s.tablePages rows columns).flatten, b.IsRow →
        b.ShowsFitting (Column.resolve columns rows) rows) ∧
      (∀ summary rows columns, ∀ b ∈ (s.summaryPages summary rows columns).flatten, b.IsRow →
        b.ShowsFitting (Column.resolve columns rows) rows) ∧
      ∀ parts, ∀ b ∈ (s.sectionPages parts).flatten, b.IsRow →
        ∃ part ∈ parts, b.ShowsFitting (Column.resolve part.columns part.rows) part.rows := by
  refine ⟨fun labels rows available w hw => ?_, fun s c rows columns => ?_, fun s =>
    ⟨s.tablePages_showFitting, s.summaryPages_showFitting, s.sectionPages_showFitting⟩⟩
  · have hbounds := columnWidths_bounds hw
    refine ⟨hbounds, fun size hsize => ?_, fun s y x => headerBox_fits s y x hbounds,
      fun fill y x => dataBox_fits fill y x hbounds⟩
    simp only [List.mem_cons, List.not_mem_nil, or_false] at hsize
    apply four_le_charsThatFit _ _ hbounds.1
    all_goals omega
  · have hthere : c.All fun b => b ∈ c.pages.flatten ∨ b.ShowsFitting (Column.resolve columns rows) rows :=
      fun _ => .inl
    exact hthere.table_drawn fun b hb => .inr hb.showsFitting

theorem cellTexts_fit_longName :
    let s : PageSetup ℚ := standard
    let rows : List Row := [⟨[("name", .text (String.ofList (List.replicate 60 'a')))]⟩]
    let columns : List Column := [⟨"name", "Name"⟩]
    let shown := String.ofList (List.replicate 37 'a') ++ "..."
    (∃ w ∈ columnWidths ["Name"] (rows.map (Column.texts columns)) s.printableWidth,
      15 ≤ w ∧ w ≤ 60 ∧ 4 ≤ charsThatFit w 8) ∧
    ((s.tablePages rows columns).flatten.filterMap Block.data?).map (List.map fun b => (b.width, b.label.text)) =
      [[(60, shown)]] ∧
    ∃ b ∈ (s.tablePages rows columns).flatten, b.data?.isSome ∧ b.ShowsFitting (Column.resolve columns rows) rows := by
  intro s rows columns shown
  obtain ⟨hwidths, -, hdocuments⟩ := cellTexts_fit
  refine ⟨⟨60, by decide +kernel, ?_⟩, by decide +kernel, ?_⟩
  · obtain ⟨⟨hwide, hnarrow⟩, hfour, -⟩ := hwidths ["Name"] (rows.map (Column.texts columns)) s.printableWidth 60
      (by decide +kernel)
    exact ⟨hwide, hnarrow, hfour 8 (by decide)⟩
  · have hdrawn : (s.tablePages rows columns).flatten.any (fun b => b.data?.isSome) = true := by decide +kernel
    obtain ⟨b, hb, hdata⟩ := List.any_eq_true.mp hdrawn
    refine ⟨b, hb, hdata, (hdocuments s).1 rows columns b hb ?_⟩
    cases b with
    | dataRow => trivial
    | _ => cases hdata

end PageSetup

end PortfolioReports
