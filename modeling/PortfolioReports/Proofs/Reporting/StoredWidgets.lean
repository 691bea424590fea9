import PortfolioReports.Proofs.Reporting.Keeps
import PortfolioReports.Proofs.Store.ReadBack
import PortfolioReports.Proofs.Store.Widgets

namespace PortfolioReports

open Calendar

inductive WidgetEdit where
  | save (widget : Widget)
  | move (user : Uuid) (positions : List (Uuid × Int64))
  | delete (id : Uuid)

namespace WidgetEdit

def request : WidgetEdit → Request
  | save w => .saveWidget w
  | move user positions => .moveWidgets user positions
  | delete id => .deleteWidget id

def Saves (c : CallSetting) (id : String) : WidgetEdit → Prop
  | save w => (if w.id.isNil then c.fresh else w.id).toText = id
  | _ => False

def Deletes (id : String) : WidgetEdit → Prop
  | delete u => u.toText = id
  | _ => False

end WidgetEdit

namespace Store

/-- A row of the widget is still there. As long as it is not saved again, only its place may be another. -/
structure StillHas (s : Store) (row : WidgetRow) (unsaved : Prop) : Prop where
  unique : s.UniqueWidgetIds
  row : ∃ row' ∈ s.widgets, row'.id = row.id ∧ row'.createdAt = row.createdAt ∧ (unsaved → row.SameButPlace row')

namespace StillHas

variable {s : Store} {row : WidgetRow} {unsaved : Prop}

theorem refl (h : s.UniqueWidgetIds) (hrow : row ∈ s.widgets) : s.StillHas row unsaved :=
  ⟨h, row, hrow, rfl, rfl, fun _ => .refl row⟩

theorem putWidget (h : s.StillHas row unsaved) {w : Widget} (hw : unsaved → w.id.toText ≠ row.id) :
    (s.putWidget w).StillHas row unsaved := by
  obtain ⟨hunique, row', hmem, hid, hcreated, hsame⟩ := h
  obtain ⟨row'', hmem', hid', hcreated', hother⟩ := exists_mem_putWidget hmem w
  refine ⟨hunique.putWidget w, row'', hmem', hid'.trans hid, hcreated'.trans hcreated, ?_⟩
  intro hunsaved
  rw [hother (hid ▸ hw hunsaved)]
  exact hsame hunsaved

theorem moveWidgets (h : s.StillHas row unsaved) (user : Uuid) (time : Moment) (positions : List (Uuid × Int64)) :
    (s.moveWidgets user time positions).1.StillHas row unsaved := by
  obtain ⟨hunique, row', hmem, hid, hcreated, hsame⟩ := h
  have hmoved : row'.SameButPlace (positions.foldl (WidgetRow.place user time) row') :=
    (WidgetRow.movedBy_foldl_place positions row').same
  obtain ⟨hid', -, hcreated'⟩ := hmoved.columns
  refine ⟨hunique.moveWidgets user time positions, _, ?_, hid'.trans hid, hcreated'.trans hcreated, ?_⟩
  · rw [moveWidgets_fst]
    exact List.mem_map_of_mem hmem
  · exact fun hunsaved => (hsame hunsaved).trans hmoved

theorem deleteWidget (h : s.StillHas row unsaved) {id : Uuid} (hid : id.toText ≠ row.id) :
    (s.deleteWidget id).1.StillHas row unsaved := by
  obtain ⟨hunique, row', hmem, hid', hcreated, hsame⟩ := h
  exact ⟨hunique.deleteWidget id, row', mem_deleteWidget hmem (hid' ▸ hid), hid', hcreated, hsame⟩

end StillHas

end Store

namespace WidgetEdit

open Call Reporting

variable {row : WidgetRow} {unsaved : Prop} {c : CallSetting}

theorem keeps_stampWidget {P : Store → Prop} (fresh : Uuid) (now : Moment) (w : Widget) :
    (stampWidget fresh now w).Keeps P fun saved => saved.id = if w.id.isNil then fresh else w.id := by
  unfold stampWidget
  split
  · exact .pure rfl
  · exact Keeps.bind (.read fun _ _ _ _ => trivial) fun _ _ => .pure rfl

theorem keeps_saveWidget {P : Store → Prop} {fresh : Uuid} {now : Moment} {w : Widget}
    (hput : ∀ s, P s → ∀ saved : Widget, (saved.id = if w.id.isNil then fresh else w.id) → P (s.putWidget saved)) :
    (saveWidget fresh now w).Keeps P fun _ => True :=
  Keeps.bind .check fun _ _ => (keeps_stampWidget fresh now w).bind fun saved hsaved =>
    .change fun s hs => hput s hs saved hsaved

theorem keeps (e : WidgetEdit) (hdeletes : ¬e.Deletes row.id) (hsaves : unsaved → ¬e.Saves c row.id) :
    (e.request.call c).Keeps (fun s => s.StillHas row unsaved) fun _ => True := by
  cases e with
  | save w =>
    refine .map (keeps_saveWidget fun s hs saved hsaved => hs.putWidget fun hunsaved => ?_) fun _ _ => trivial
    rw [hsaved]
    exact hsaves hunsaved
  | move user positions => exact .map (.change fun s hs => hs.moveWidgets user c.now positions) fun _ _ => trivial
  | delete id =>
    refine .map (.bind (.change fun s hs => hs.deleteWidget hdeletes) fun _ _ => .changed _ _) fun _ _ => trivial

theorem keeps_unique (e : WidgetEdit) (c : CallSetting) :
    (e.request.call c).Keeps Store.UniqueWidgetIds fun _ => True := by
  cases e with
  | save w => exact .map (keeps_saveWidget fun s hs saved _ => hs.putWidget saved) fun _ _ => trivial
  | move user positions => exact .map (.change fun s hs => hs.moveWidgets user c.now positions) fun _ _ => trivial
  | delete id => exact .map (.bind (.change fun s hs => hs.deleteWidget id) fun _ _ => .changed _ _) fun _ _ => trivial

end WidgetEdit

namespace Store

def afterEdits (s : Store) (source : StatementPair → FetchCourse) (edits : List (WidgetEdit × CallSetting)) : Store :=
  s.after source (edits.map fun e => (e.1.request, e.2))

variable {s : Store} {source : StatementPair → FetchCourse}

theorem keeps_afterEdits {P : Store → Prop} {edits : List (WidgetEdit × CallSetting)}
    (h : ∀ e ∈ edits, (e.1.request.call e.2).Keeps P fun _ => True) (hs : P s) : P (s.afterEdits source edits) :=
  keeps_after (List.forall_mem_map.mpr h) source hs

theorem UniqueWidgetIds.afterEdits (h : s.UniqueWidgetIds) (edits : List (WidgetEdit × CallSetting)) :
    (s.afterEdits source edits).UniqueWidgetIds := keeps_afterEdits (fun e _ => e.1.keeps_unique e.2) h

theorem StillHas.afterEdits {row : WidgetRow} {edits : List (WidgetEdit × CallSetting)} (h : s.UniqueWidgetIds)
    (hrow : row ∈ s.widgets) (hdeletes : ∀ e ∈ edits, ¬e.1.Deletes row.id) :
    (s.afterEdits source edits).StillHas row (∀ e ∈ edits, ¬e.1.Saves e.2 row.id) := by
  apply keeps_afterEdits (P := fun s => s.StillHas row (∀ e ∈ edits, ¬e.1.Saves e.2 row.id))
  · intro e he
    exact e.1.keeps (hdeletes e he) fun hunsaved => hunsaved e he
  · exact .refl h hrow

def MovesWidgets (s : Store) (source : StatementPair → FetchCourse) (c : CallSetting) (user : Uuid)
    (positions : List (Uuid × Int64)) : Prop :=
  ∃ rows n, ((Request.moveWidgets user positions).call c).run source s =
      ({ s with widgets := rows }, .ok (.moved n)) ∧
    List.Forall₂ (WidgetRow.MovedBy user c.now positions) s.widgets rows ∧
    n = positions.countP fun p => s.widgets.any (WidgetRow.isOf user p.1)

theorem UniqueWidgetIds.movesWidgets (h : s.UniqueWidgetIds) (c : CallSetting) (user : Uuid)
    (positions : List (Uuid × Int64)) : s.MovesWidgets source c user positions := by
  refine ⟨s.widgets.map fun w => positions.foldl (WidgetRow.place user c.now) w,
    (s.moveWidgets user c.now positions).2, ?_, ?_, h.moveWidgets_snd user c.now positions⟩
  · rw [← moveWidgets_fst]
    rfl
  · rw [List.forall₂_map_right_iff, List.forall₂_same]
    exact fun row _ => WidgetRow.movedBy_foldl_place positions row

/-- What becomes of the widgets of a store, whatever calls save, move and delete. -/
structure WidgetsSurvive (s : Store) : Prop where
  unique : ∀ source edits, (s.afterEdits source edits).UniqueWidgetIds
  kept : ∀ source earlier later, ∀ row ∈ (s.afterEdits source earlier).widgets,
    (∀ e ∈ later, ¬e.1.Deletes row.id) →
      ∃ row' ∈ (s.afterEdits source (earlier ++ later)).widgets, row'.id = row.id ∧ row'.createdAt = row.createdAt ∧
        ((∀ e ∈ later, ¬e.1.Saves e.2 row.id) → row.SameButPlace row')
  keptSideBySide : ∀ g events, ∀ row ∈ s.widgets,
    (∀ request c, .begin request c ∈ events → ∃ e : WidgetEdit, e.request = request ∧ ¬e.Deletes row.id) →
      ∃ row' ∈ ((Service.start s).run g events).store.widgets, row'.id = row.id ∧ row'.createdAt = row.createdAt
  moved : ∀ source edits c user positions, (s.afterEdits source edits).MovesWidgets source c user positions

theorem afterEdits_append (s : Store) (source : StatementPair → FetchCourse)
    (earlier later : List (WidgetEdit × CallSetting)) :
    s.afterEdits source (earlier ++ later) = (s.afterEdits source earlier).afterEdits source later := by
  rw [afterEdits, List.map_append, after, List.foldl_append]
  rfl

theorem widgetsSurvive (h : s.UniqueWidgetIds) : s.WidgetsSurvive where
  unique _ edits := h.afterEdits edits
  kept source earlier later row hrow hdeletes := by
    rw [afterEdits_append]
    exact (StillHas.afterEdits (h.afterEdits earlier) hrow hdeletes).row
  keptSideBySide g events row hrow hedits := by
    have hstart : s.StillHas row False := .refl h hrow
    have hkeeps : ∀ request c, .begin request c ∈ events →
        (request.call c).Keeps (fun s => s.StillHas row False) fun _ => True := by
      intro request c hbegin
      obtain ⟨e, rfl, hdeletes⟩ := hedits request c hbegin
      exact e.keeps hdeletes False.elim
    obtain ⟨row', hmem, hid, hcreated, -⟩ := (Service.keeps_run g hstart hkeeps).1.row
    exact ⟨row', hmem, hid, hcreated⟩
  moved _ edits := (h.afterEdits edits).movesWidgets

def threes : Uuid := ⟨Vector.replicate 32 ⟨3, by decide⟩⟩

def ownDrawing : WidgetRow := .ofWidget { drawing with owner? := some ones }

def sharedDrawing : WidgetRow := .ofWidget { drawing with id := threes }

def twoDrawings : Store := ⟨[], [], [], [], [ownDrawing, sharedDrawing], []⟩

theorem widgetsSurvive_twoDrawings :
    let source : StatementPair → FetchCourse := fun _ => .notBegun
    twoDrawings.UniqueWidgetIds ∧ (twoDrawings.afterEdits source [(.delete threes, atNoon)]).UniqueWidgetIds ∧
      ∃ rows, ((Request.moveWidgets ones [(ones, 1), (threes, 7), (ones, 3)]).call atNoon).run source twoDrawings =
        ({ twoDrawings with widgets := rows }, .ok (.moved 2)) ∧ rows.map WidgetRow.position = [3, -1] := by
  intro source
  have hids : twoDrawings.UniqueWidgetIds := by
    unfold UniqueWidgetIds
    decide +kernel
  have hsurvive := widgetsSurvive hids
  obtain ⟨rows, n, hrun, hrows, hcount⟩ := hsurvive.moved source [] atNoon ones [(ones, 1), (threes, 7), (ones, 3)]
  have htwo : [(ones, (1 : Int64)), (threes, 7), (ones, 3)].countP
      (fun p => twoDrawings.widgets.any (WidgetRow.isOf ones p.1)) = 2 := by decide +kernel
  refine ⟨hids, hsurvive.unique source _, rows, htwo ▸ hcount ▸ hrun, ?_⟩
  obtain ⟨own, rest, hown, hrest, rfl⟩ := List.forall₂_cons_left_iff.mp hrows
  obtain ⟨shared, _, hshared, hnil, rfl⟩ := List.forall₂_cons_left_iff.mp hrest
  rw [List.forall₂_nil_left_iff.mp hnil, List.map_cons, List.map_cons, List.map_nil]
  have hposition := (hown.named rfl 3 (by decide +kernel)).1
  have hsame := hshared.others (.inl nofun)
  rw [hposition, hsame]
  rfl

end Store

end PortfolioReports
