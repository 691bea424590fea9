import Mathlib.Data.List.Forall2
import Mathlib.Data.List.Basic
import PortfolioReports.Pages.Layout

/-!
The drawing is followed step by step, wherever the pages are broken, and no length is looked at.
-/

namespace PortfolioReports

variable {α : Type}

namespace Block

def header? : Block α → Option (List (Box α))
  | .headerRow boxes => some boxes
  | _ => none

def data? : Block α → Option (List (Box α))
  | .dataRow _ boxes => some boxes
  | _ => none

def footer? : Block α → Option String
  | .footer l => some l.text
  | _ => none

def IsLead (b : Block α) : Prop := b.header? = none ∧ b.data? = none ∧ b.footer? = none

theorem IsLead.filterMap_eq_nil {blocks : List (Block α)} (h : ∀ b ∈ blocks, b.IsLead) :
    blocks.filterMap header? = [] ∧ blocks.filterMap data? = [] ∧ ∀ b ∈ blocks, b.footer? = none :=
  ⟨List.filterMap_eq_nil_iff.mpr fun b hb => (h b hb).1, List.filterMap_eq_nil_iff.mpr fun b hb => (h b hb).2.1,
    fun b hb => (h b hb).2.2⟩

end Block

variable [Scalar α] {s : PageSetup α} {t : TableFrame α} {c : Canvas α}

structure ShowsTexts (left : α) (widths : List α) (fill : Rgb) (size : ℕ) (texts : List String) (boxes : List (Box α)) :
    Prop where
  width_eq : boxes.map Box.width = widths
  x_eq : boxes.map Box.x = leftEdges left widths
  shown : List.Forall₂ (fun text b => b.fill = fill ∧ b.label.text = fitToWidth text b.width size) texts boxes

theorem boxesOf_showsTexts {box : α → α → String → Box α} {fill : Rgb} {size : ℕ}
    (hbox : ∀ x width text, (box x width text).x = x ∧ (box x width text).width = width ∧
      (box x width text).fill = fill ∧ (box x width text).label.text = fitToWidth text width size)
    (left : α) {widths : List α} {texts : List String} (hlength : widths.length = texts.length) :
    ShowsTexts left widths fill size texts (boxesOf left widths texts box) := by
  induction widths generalizing left texts with
  | nil =>
    cases List.length_eq_zero_iff.mp hlength.symm
    exact ⟨rfl, rfl, .nil⟩
  | cons width widths ih =>
    cases texts with
    | nil => cases hlength
    | cons text texts =>
      obtain ⟨hx, hwidth, hfill, htext⟩ := hbox left width text
      obtain ⟨hwidths, hedges, htexts⟩ := ih (left + width) (Nat.succ.inj hlength)
      refine ⟨congr_arg₂ _ hwidth hwidths, congr_arg₂ _ hx hedges, .cons ⟨hfill, ?_⟩ htexts⟩
      rw [hwidth, htext]

theorem headerRow_showsTexts (s : PageSetup α) (y : α) (hwidths : t.widths.length = t.labels.length) :
    ShowsTexts s.margins.left t.widths s.headerColor 9 t.labels
      (boxesOf s.margins.left t.widths t.labels (headerBox s y)) := by
  refine boxesOf_showsTexts ?_ s.margins.left hwidths
  exact fun _ _ _ => ⟨rfl, rfl, rfl, rfl⟩

theorem dataRow_showsTexts (fill : Rgb) (left y : α) {widths : List α} {texts : List String}
    (hwidths : widths.length = texts.length) :
    ShowsTexts left widths fill 8 texts (boxesOf left widths texts (dataBox fill y)) := by
  refine boxesOf_showsTexts ?_ left hwidths
  exact fun _ _ _ => ⟨rfl, rfl, rfl, rfl⟩

theorem length_columnWidths (labels : List String) (rows : List (List String)) (available : α) :
    (columnWidths labels rows available).length = labels.length := by
  simp [columnWidths]

def HeadedOnce (s : PageSetup α) (t : TableFrame α) (page : List (Block α)) : Prop :=
  ∃ before boxes after, page = before ++ .headerRow boxes :: after ∧ before.filterMap Block.data? = [] ∧
    page.filterMap Block.header? = [boxes] ∧ ShowsTexts s.margins.left t.widths s.headerColor 9 t.labels boxes

def StartsWithHeader (page : List (Block α)) : Prop := ∃ boxes after, page = .headerRow boxes :: after

omit [Scalar α] in
theorem StartsWithHeader.append {page : List (Block α)} (h : StartsWithHeader page) (more : List (Block α)) :
    StartsWithHeader (page ++ more) := by
  obtain ⟨boxes, after, rfl⟩ := h
  exact ⟨boxes, after ++ more, rfl⟩

theorem HeadedOnce.append {page more : List (Block α)} (h : HeadedOnce s t page)
    (hmore : more.filterMap Block.header? = []) : HeadedOnce s t (page ++ more) := by
  obtain ⟨before, boxes, after, rfl, hbefore, hheader, hshows⟩ := h
  refine ⟨before, boxes, after ++ more, by simp, hbefore, ?_, hshows⟩
  rw [List.filterMap_append, hheader, hmore, List.append_nil]

theorem headedOnce_of_isLead {lead : List (Block α)} (hlead : ∀ b ∈ lead, b.IsLead) (y : α)
    (hwidths : t.widths.length = t.labels.length) :
    HeadedOnce s t (lead ++ [.headerRow (boxesOf s.margins.left t.widths t.labels (headerBox s y))]) := by
  obtain ⟨hheader, hdata, -⟩ := Block.IsLead.filterMap_eq_nil hlead
  refine ⟨lead, _, [], rfl, hdata, ?_, headerRow_showsTexts s y hwidths⟩
  rw [List.filterMap_append, hheader]
  rfl

namespace Canvas

/-- What has been drawn of a table whose rows are these, each with its place in the table. -/
structure HasTable (s : PageSetup α) (t : TableFrame α) (drawn : List (List String × ℕ)) (c : Canvas α) : Prop where
  headed : ∀ page ∈ c.pages, HeadedOnce s t page
  later : ∀ page ∈ c.pages.tail, StartsWithHeader page
  rows : List.Forall₂ (fun row boxes => ShowsTexts s.margins.left t.widths (rowFill s row.2) 8 row.1 boxes) drawn
    (c.pages.flatten.filterMap Block.data?)
  unsigned : ∀ b ∈ c.pages.flatten, b.footer? = none

def IsLead (c : Canvas α) : Prop := c.done = [] ∧ ∀ b ∈ c.current, b.IsLead

theorem IsLead.headerRow (h : c.IsLead) (hwidths : t.widths.length = t.labels.length) :
    HasTable s t [] (c.headerRow s t) := by
  obtain ⟨hdone, hlead⟩ := h
  obtain ⟨-, hdata, hfooter⟩ := Block.IsLead.filterMap_eq_nil hlead
  have hpages : (c.headerRow s t).pages =
      [c.current ++ [.headerRow (boxesOf s.margins.left t.widths t.labels (headerBox s c.y))]] := by
    simp [pages, Canvas.headerRow, down, add, hdone]
  constructor
  · simpa [hpages] using headedOnce_of_isLead hlead c.y hwidths
  · simp [hpages]
  · simp [hpages, hdata, Block.data?]
  · simpa [hpages, or_imp, forall_and, Block.footer?] using hfooter

theorem HasTable.turn_headerRow {drawn : List (List String × ℕ)} (h : HasTable s t drawn c)
    (hwidths : t.widths.length = t.labels.length) : HasTable s t drawn ((c.turn s).headerRow s t) := by
  have hpages : ((c.turn s).headerRow s t).pages =
      c.pages ++ [[.headerRow (boxesOf s.margins.left t.widths t.labels (headerBox s s.margins.top))]] := rfl
  have hsome : c.pages ≠ [] := List.append_ne_nil_of_right_ne_nil _ (List.cons_ne_nil _ _)
  constructor
  · rw [hpages, List.forall_mem_append, List.forall_mem_singleton]
    exact ⟨h.headed, headedOnce_of_isLead (fun b hb => absurd hb List.not_mem_nil) _ hwidths⟩
  · rw [hpages, List.tail_append_of_ne_nil hsome, List.forall_mem_append, List.forall_mem_singleton]
    exact ⟨h.later, _, [], rfl⟩
  · rw [hpages, List.flatten_concat, List.filterMap_append]
    exact (List.append_nil _).symm ▸ h.rows
  · rw [hpages, List.flatten_concat, List.forall_mem_append, List.forall_mem_singleton]
    exact ⟨h.unsigned, rfl⟩

theorem HasTable.dataRow {drawn : List (List String × ℕ)} (h : HasTable s t drawn c) {texts : List String}
    (hwidths : t.widths.length = texts.length) (i : ℕ) :
    HasTable s t (drawn ++ [(texts, i)]) (c.dataRow s t i texts) := by
  let boxes := boxesOf s.margins.left t.widths texts (dataBox (rowFill s i) c.y)
  have hpages : (c.dataRow s t i texts).pages = c.done ++ [c.current ++ [.dataRow i boxes]] := rfl
  have hflat : (c.dataRow s t i texts).pages.flatten = c.pages.flatten ++ [.dataRow i boxes] := by
    rw [hpages, List.flatten_concat, ← List.append_assoc, ← List.flatten_concat]
    rfl
  constructor
  · obtain ⟨hdone, hcurrent⟩ := List.forall_mem_append.mp h.headed
    rw [hpages, List.forall_mem_append, List.forall_mem_singleton]
    exact ⟨hdone, (List.forall_mem_singleton.mp hcurrent).append rfl⟩
  · -- The current page starts with a header just when it is not the only page.
    rw [hpages]
    cases hdone : c.done with
    | nil => exact fun page hpage => absurd hpage List.not_mem_nil
    | cons first rest =>
      have hlater := h.later
      rw [pages, hdone, List.cons_append, List.tail_cons, List.forall_mem_append, List.forall_mem_singleton] at hlater
      rw [List.cons_append, List.tail_cons, List.forall_mem_append, List.forall_mem_singleton]
      exact ⟨hlater.1, hlater.2.append _⟩
  · rw [hflat, List.filterMap_append]
    exact List.rel_append h.rows (.cons (dataRow_showsTexts _ _ _ hwidths) .nil)
  · rw [hflat, List.forall_mem_append, List.forall_mem_singleton]
    exact ⟨h.unsigned, rfl⟩

theorem HasTable.dataRows {drawn : List (List String × ℕ)} (h : HasTable s t drawn c)
    (hlabels : t.widths.length = t.labels.length) {rows : List (List String)}
    (hrows : ∀ texts ∈ rows, t.widths.length = texts.length) (i : ℕ) :
    HasTable s t (drawn ++ rows.zipIdx i) (dataRows s t c i rows) := by
  induction rows generalizing c drawn i with
  | nil => exact (List.append_nil drawn).symm ▸ h
  | cons texts rest ih =>
    obtain ⟨htexts, hrest⟩ := List.forall_mem_cons.mp hrows
    have hrow := h.dataRow htexts i
    rw [List.zipIdx_cons, List.append_cons]
    unfold Canvas.dataRows
    dsimp only
    split
    · exact ih (hrow.turn_headerRow hlabels) hrest (i + 1)
    · exact ih hrow hrest (i + 1)

omit [Scalar α] in
theorem IsLead.add (h : c.IsLead) {b : Block α} (hb : b.IsLead) : (c.add b).IsLead := by
  obtain ⟨hdone, hlead⟩ := h
  exact ⟨hdone, List.forall_mem_append.mpr ⟨hlead, List.forall_mem_singleton.mpr hb⟩⟩

theorem IsLead.down (h : c.IsLead) (height : α) : (c.down height).IsLead := h

theorem IsLead.textLine (h : c.IsLead) (s : PageSetup α) (text : String) (face : Typeface) (size : ℕ) (color : Rgb)
    (height : α) : (c.textLine s text face size color height).IsLead := by
  unfold Canvas.textLine
  dsimp only
  split
  · exact h.down height
  · exact (h.add ⟨rfl, rfl, rfl⟩).down height

theorem IsLead.summaryEntries (h : c.IsLead) (s : PageSetup α) (col : ℕ) (entries : List (String × Cell)) :
    (summaryEntries s c col entries).IsLead := by
  induction entries generalizing c col with
  | nil =>
    unfold Canvas.summaryEntries
    split
    · exact h
    · exact h.down _
  | cons entry rest ih =>
    unfold Canvas.summaryEntries
    dsimp only
    split
    · exact ih (h.add ⟨rfl, rfl, rfl⟩) 1
    · exact ih ((h.add ⟨rfl, rfl, rfl⟩).down _) 0

theorem IsLead.summary (h : c.IsLead) (s : PageSetup α) (r : Row) : (c.summary s r).IsLead :=
  ((h.textLine s _ _ _ _ _).summaryEntries s 0 r.cells).down _

theorem isLead_begin (s : PageSetup α) : s.begin.IsLead := by
  have hempty : (⟨[], [], s.margins.top⟩ : Canvas α).IsLead := ⟨rfl, fun b hb => absurd hb List.not_mem_nil⟩
  have htitle := hempty.textLine s s.title .bold 20 black (Scalar.whole 12)
  unfold PageSetup.begin
  cases s.includeHeader with
  | false => exact hempty
  | true =>
    cases s.subtitle? <;> cases s.generatedAt?
    · exact htitle.down _
    · exact (htitle.textLine s _ _ _ _ _).down _
    · exact (htitle.textLine s _ _ _ _ _).down _
    · exact ((htitle.textLine s _ _ _ _ _).textLine s _ _ _ _ _).down _

end Canvas

def Column.texts (columns : List Column) (r : Row) : List String :=
  columns.map fun col => ((r.get? col.key).map Cell.printed).getD ""

theorem Canvas.IsLead.table (h : c.IsLead) (s : PageSetup α) {rows : List Row} {columns resolved : List Column}
    (hresolved : Column.resolve columns rows = resolved) (hcolumns : resolved ≠ []) :
    HasTable s ⟨resolved.map Column.label, columnWidths (resolved.map Column.label) (rows.map (Column.texts resolved))
      s.printableWidth⟩ (rows.map (Column.texts resolved)).zipIdx (c.table s rows columns) := by
  have hlabels := length_columnWidths (resolved.map Column.label) (rows.map (Column.texts resolved)) s.printableWidth
  unfold Canvas.table
  dsimp only
  rw [hresolved, if_neg (by simpa using hcolumns)]
  refine (h.headerRow hlabels).dataRows hlabels (List.forall_mem_map.mpr fun r _ => ?_) 0
  rw [hlabels, List.length_map, Column.texts, List.length_map]

def EndsWithFooter (text : String) (page : List (Block α)) : Prop :=
  ∃ body l, page = body ++ [.footer l] ∧ l.text = text ∧ ∀ b ∈ body, b.footer? = none

/-- The pages show a table with these rows: each once and in their order, under the header that every page has. -/
structure PrintsTable (s : PageSetup α) (t : TableFrame α) (rows : List (List String))
    (pages : List (List (Block α))) : Prop where
  nonempty : pages ≠ []
  headed : ∀ page ∈ pages, HeadedOnce s t page
  later : ∀ page ∈ pages.tail, StartsWithHeader page
  rows : List.Forall₂ (fun row boxes => ShowsTexts s.margins.left t.widths
    (if row.2 % 2 = 1 then s.alternateColor?.getD white else white) 8 row.1 boxes) rows.zipIdx
    (pages.flatten.filterMap Block.data?)
  signed : ∀ k page, pages[k]? = some page → if s.includeFooter then
    EndsWithFooter s!"Page {k + 1} of {pages.length}" page else ∀ b ∈ page, b.footer? = none

omit [Scalar α] in
theorem rowFill_eq (s : PageSetup α) (i : ℕ) :
    rowFill s i = if i % 2 = 1 then s.alternateColor?.getD white else white := by
  cases h : s.alternateColor? <;> simp [rowFill, h]

namespace PageSetup

def signature (s : PageSetup α) (number total : ℕ) : List (Block α) :=
  if s.includeFooter then [s.footer number total] else []

theorem filterMap_signature {β : Type} {f : Block α → Option β} (hf : ∀ l, f (.footer l) = none) (s : PageSetup α)
    (number total : ℕ) : (s.signature number total).filterMap f = [] := by
  unfold signature
  split
  · rw [List.filterMap_cons, footer, hf, List.filterMap_nil]
  · rfl

theorem finish_eq (s : PageSetup α) (c : Canvas α) :
    s.finish c = c.pages.zipIdx.map fun p => p.1 ++ s.signature (p.2 + 1) c.pages.length := by
  unfold finish signature
  split
  · rfl
  · simp only [List.append_nil, List.zipIdx_map_fst]

theorem finish_printsTable {rows : List (List String)} (h : Canvas.HasTable s t rows.zipIdx c) :
    PrintsTable s t rows (s.finish c) := by
  have hlength : (s.finish c).length = c.pages.length := by simp [finish_eq]
  constructor
  · rw [← List.length_pos_iff, hlength]
    simp [Canvas.pages]
  · rw [finish_eq, List.forall_mem_map]
    intro p hp
    exact (h.headed p.1 (List.fst_mem_of_mem_zipIdx hp)).append (filterMap_signature (fun _ => rfl) s _ _)
  · rw [finish_eq, ← List.map_tail, List.tail_zipIdx, List.forall_mem_map]
    intro p hp
    exact (h.later p.1 (List.fst_mem_of_mem_zipIdx hp)).append _
  · have hdata : (s.finish c).flatten.filterMap Block.data? = c.pages.flatten.filterMap Block.data? := by
      simp only [finish_eq, List.filterMap_flatten, List.map_map, Function.comp_def, List.filterMap_append,
        filterMap_signature (f := Block.data?) (fun _ => rfl), List.append_nil]
      rw [← List.zipIdx_map_fst 0 c.pages, List.map_map]
      simp [Function.comp_def]
    simpa only [hdata, rowFill_eq] using h.rows
  · intro k page hpage
    rw [hlength]
    rw [finish_eq, List.getElem?_map, List.getElem?_zipIdx, Option.map_map, Option.map_eq_some_iff] at hpage
    obtain ⟨body, hbody, rfl⟩ := hpage
    have hunsigned : ∀ b ∈ body, b.footer? = none :=
      fun b hb => h.unsigned b (List.mem_flatten_of_mem (List.mem_of_getElem? hbody) hb)
    simp only [Function.comp_apply, Nat.zero_add, signature]
    split
    · exact ⟨body, _, rfl, rfl, hunsigned⟩
    · simpa using hunsigned

theorem pages_printTable (s : PageSetup α) {rows : List Row} {columns : List Column}
    (hcolumns : Column.resolve columns rows ≠ []) :
    ∃ t : TableFrame α, t.labels = (Column.resolve columns rows).map Column.label ∧
      PrintsTable s t (rows.map (Column.texts (Column.resolve columns rows))) (s.tablePages rows columns) ∧
      ∀ summary, PrintsTable s t (rows.map (Column.texts (Column.resolve columns rows)))
        (s.summaryPages summary rows columns) := by
  refine ⟨_, rfl, finish_printsTable ((Canvas.isLead_begin s).table s rfl hcolumns), fun summary => ?_⟩
  exact finish_printsTable (((Canvas.isLead_begin s).summary s summary).table s rfl hcolumns)

theorem pages_printTable_threePages :
    let s : PageSetup Float := { (standard : PageSetup Float) with margins := ⟨180, 15, 10, 10⟩ }
    let rows : List Row := [⟨[("name", .text "Fen")]⟩, ⟨[("area", .int 12), ("name", .text "Moor")]⟩]
    let columns : List Column := [⟨"name", "Name"⟩, ⟨"area", "Area"⟩]
    Column.resolve columns rows ≠ [] ∧ (s.tablePages rows columns).length = 3 ∧
      rows.map (Column.texts (Column.resolve columns rows)) = [["Fen", ""], ["Moor", "12"]] ∧
      ∃ t : TableFrame Float, t.labels = ["Name", "Area"] ∧
        PrintsTable s t [["Fen", ""], ["Moor", "12"]] (s.tablePages rows columns) := by
  intro s rows columns
  have hcolumns : Column.resolve columns rows ≠ [] := by decide
  have htexts : rows.map (Column.texts (Column.resolve columns rows)) = [["Fen", ""], ["Moor", "12"]] := by
    decide +kernel
  obtain ⟨t, hlabels, hprinted, -⟩ := pages_printTable s hcolumns
  exact ⟨hcolumns, by decide +kernel, htexts, t, hlabels, htexts ▸ hprinted⟩

end PageSetup

end PortfolioReports
