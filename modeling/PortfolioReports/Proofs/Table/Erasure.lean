import PortfolioReports.Proofs.Store.ReadBack
import PortfolioReports.Proofs.Table.Cell
import PortfolioReports.Proofs.Table.Row

namespace PortfolioReports

open Calendar Json

namespace Cell

inductive HasFloat (x : Float) : Cell → Prop where
  | here : HasFloat x (float x)
  | within {items : List Cell} {c : Cell} (hc : c ∈ items) (h : HasFloat x c) : HasFloat x (list items)

/-- Each finite float in the cell is read back from its text. -/
def ReadsFloats (c : Cell) : Prop := ∀ x, c.HasFloat x → x.isFinite = true → ReadsFloat x

namespace ReadsFloats

theorem list {items : List Cell} (h : ∀ c ∈ items, c.ReadsFloats) : (Cell.list items).ReadsFloats := by
  intro x hx hfinite
  cases hx with
  | within hc hx => exact h _ hc x hx hfinite

theorem float {x : Float} (h : x.isFinite = true → ReadsFloat x) : (Cell.float x).ReadsFloats := by
  intro y hy hfinite
  cases hy
  exact h hfinite

end ReadsFloats

theorem eraseAll_eq (items : List Cell) : eraseAll items = items.map erase := by
  induction items with
  | nil => rfl
  | cons c cs ih => rw [eraseAll, ih, List.map_cons]

@[simp] theorem erase_list (items : List Cell) : (list items).erase = list (items.map erase) := by
  rw [erase, eraseAll_eq]

@[simp] theorem toJson_list (items : List Cell) : (list items).toJson = .list (items.map toJson) := by
  rw [toJson, toJsonAll_eq]

theorem toJson_erase (c : Cell) : c.erase.toJson = c.toJson := by
  induction c using Cell.induction with
  | scalar c hc =>
    cases c with
    | float x => by_cases hx : x.isFinite = true <;> simp [erase, toJson, ofFloat, hx]
    | list items => cases hc
    | _ => rfl
  | list items ih =>
    rw [erase_list, toJson_list, toJson_list, List.map_map]
    exact congrArg Json.list (List.map_congr_left ih)

theorem erase_erase (c : Cell) : c.erase.erase = c.erase := by
  induction c using Cell.induction with
  | scalar c hc =>
    cases c with
    | float x => by_cases hx : x.isFinite = true <;> simp [erase, hx]
    | list items => cases hc
    | _ => rfl
  | list items ih =>
    rw [erase_list, erase_list, List.map_map]
    exact congrArg list (List.map_congr_left ih)

theorem ReadsFloats.isPlain_erase {c : Cell} (h : c.ReadsFloats) : c.erase.IsPlain := by
  induction c using Cell.induction with
  | scalar c hc =>
    cases c with
    | null => exact .null
    | bool b => exact .bool b
    | int n => exact .int n
    | float x =>
      by_cases hx : x.isFinite = true
      · rw [erase, if_pos hx]
        exact .float (h x .here hx)
      · rw [erase, if_neg hx]
        exact .null
    | text s => exact .text s
    | date d => exact .text _
    | moment m => exact .text _
    | list items => cases hc
  | list items ih =>
    rw [erase_list]
    refine .list (List.forall_mem_map.mpr fun c hc => ?_)
    exact ih c hc fun x hx => h x (.within hc hx)

theorem ReadsFloats.ofJson?_reread {c : Cell} (h : c.ReadsFloats) : ofJson? c.toJson.reread = some c.erase := by
  have hplain := h.isPlain_erase
  rw [← toJson_erase, Cell.ofJson?_reread hplain.isUndated, hplain.reread_eq]

theorem erase_moment {m m' : Moment} (hdate : m.date = m'.date) (hseconds : m.clock.seconds = m'.clock.seconds)
    (hm : m.clock.nanos < 1000000000) (hm' : m'.clock.nanos < 1000000000) : (moment m).erase = (moment m').erase := by
  have hclock : clockText m.clock = clockText m'.clock := by
    simp only [clockText, Clock.hour, Clock.minute, Clock.second, hseconds, Nat.div_eq_of_lt hm, Nat.div_eq_of_lt hm']
  rw [erase, erase, momentText, momentText, hdate, hclock]

end Cell

namespace Row

def erase (r : Row) : Row := ⟨r.cells.map fun e => (e.1, e.2.erase)⟩

variable {r : Row}

theorem keys_erase (r : Row) : r.erase.keys = r.keys := by
  rw [keys, erase, List.map_map]
  rfl

theorem toJson_erase (r : Row) : r.erase.toJson = r.toJson := by
  rw [toJson, erase, List.map_map]
  exact congrArg Json.object (List.map_congr_left fun e _ => Prod.ext rfl e.2.toJson_erase)

theorem ofJson?_reread_entries {entries : List (String × Cell)} (h : ∀ e ∈ entries, e.2.ReadsFloats) :
    ofJson? (Json.object (entries.map fun e => (e.1, e.2.toJson))).reread =
      some (ofEntries (entries.map fun e => (e.1, e.2.erase))) := by
  have hcells : (entries.map fun e => (e.1, e.2.toJson.reread)).mapM
      (fun f => (Cell.ofJson? f.2).map fun c => (f.1, c)) = some (entries.map fun e => (e.1, e.2.erase)) := by
    refine mapM_map_eq_some fun e he => ?_
    show (Cell.ofJson? e.2.toJson.reread).map (fun c => (e.1, c)) = some (e.1, e.2.erase)
    rw [(h e he).ofJson?_reread, Option.map_some]
  rw [reread, rereadFields_eq, List.map_map]
  exact congrArg (Option.map ofEntries) hcells

theorem ofJson?_reread (hkeys : r.keys.Nodup) (hfloats : ∀ e ∈ r.cells, e.2.ReadsFloats) :
    ofJson? r.toJson.reread = some r.erase := by
  have hnodup : ((r.cells.map fun e => (e.1, e.2.erase)).map Prod.fst).Nodup := by
    rw [← keys_erase] at hkeys
    exact hkeys
  rw [toJson, ofJson?_reread_entries hfloats, ofEntries_of_nodup hnodup]
  rfl

end Row

def readCell? (text : String) : Option Cell := (parse? text).bind (within? Cell.ofJson?)

def readRow? (text : String) : Option Row := (parse? text).bind (within? Row.ofJson?)

/-- Cells and rows that are written and read are what is left of them, whose texts are the same. -/
theorem readBack_erase :
    (∀ c : Cell, c.ReadsFloats → c.toJson.depth ≤ depthLimit →
      readCell? c.toJson.print = some c.erase ∧ readCell? c.erase.toJson.print = some c.erase) ∧
    (∀ r : Row, r.keys.Nodup → (∀ e ∈ r.cells, e.2.ReadsFloats) → r.toJson.depth ≤ depthLimit →
      readRow? r.toJson.print = some r.erase ∧ readRow? r.erase.toJson.print = some r.erase) ∧
    (∀ c : Cell, c.erase.toJson.print = c.toJson.print ∧ c.erase.erase = c.erase) ∧
    (∀ r : Row, r.erase.toJson.print = r.toJson.print ∧ r.erase.keys = r.keys ∧ r.erase.erase = r.erase) ∧
    ∀ m m' : Moment, m.date = m'.date → m.clock.seconds = m'.clock.seconds → m.clock.nanos < 1000000000 →
      m'.clock.nanos < 1000000000 → (Cell.moment m).erase = (Cell.moment m').erase := by
  refine ⟨?_, ?_, ?_, ?_, ?_⟩
  · intro c hfloats hdepth
    have hread : readCell? c.toJson.print = some c.erase := by
      rw [readCell?, within?_parse?_print _ hdepth, hfloats.ofJson?_reread]
    rw [c.toJson_erase]
    exact ⟨hread, hread⟩
  · intro r hkeys hfloats hdepth
    have hread : readRow? r.toJson.print = some r.erase := by
      rw [readRow?, within?_parse?_print _ hdepth, Row.ofJson?_reread hkeys hfloats]
    rw [r.toJson_erase]
    exact ⟨hread, hread⟩
  · exact fun c => ⟨congrArg print c.toJson_erase, c.erase_erase⟩
  · intro r
    refine ⟨congrArg print r.toJson_erase, r.keys_erase, ?_⟩
    rw [Row.erase, Row.erase, List.map_map]
    exact congrArg Row.mk (List.map_congr_left fun e _ => Prod.ext rfl e.2.erase_erase)
  · exact fun m m' => Cell.erase_moment

def mixedCell : Cell := .list
  [.date ⟨0⟩, .moment ⟨⟨0⟩, ⟨3661, 500000000⟩⟩, .float 0.5, .float (0 / 0),
    .list [.text "a\"\n", .int (-9223372036854775808), .bool true, .null]]

def mixedRow : Row := ⟨[("zeta", mixedCell), ("", .date ⟨0⟩)]⟩

theorem mixedCell_readsFloats : mixedCell.ReadsFloats := by
  have hnot : (0 / 0 : Float).isFinite = false := by decide +kernel
  refine .list (List.forall_mem_cons.mpr ⟨nofun, List.forall_mem_cons.mpr ⟨nofun, List.forall_mem_cons.mpr
    ⟨.float fun _ => Store.readsFloat_half, List.forall_mem_cons.mpr ⟨.float fun h => ?_, ?_⟩⟩⟩⟩)
  · rw [hnot] at h
    cases h
  · refine List.forall_mem_singleton.mpr (.list ?_)
    simp only [List.forall_mem_cons, List.not_mem_nil, false_imp_iff, implies_true, and_true]
    exact ⟨nofun, nofun, nofun, nofun⟩

theorem readBack_erase_mixed :
    readCell? mixedCell.toJson.print = some (.list [.text "1970-01-01", .text "1970-01-01T01:01:01", .float 0.5, .null,
        .list [.text "a\"\n", .int (-9223372036854775808), .bool true, .null]]) ∧
      readRow? mixedRow.toJson.print = some mixedRow.erase := by
  obtain ⟨hcell, hrow, -⟩ := readBack_erase
  have herase : mixedCell.erase = .list [.text "1970-01-01", .text "1970-01-01T01:01:01", .float 0.5, .null,
      .list [.text "a\"\n", .int (-9223372036854775808), .bool true, .null]] := by
    have hhalf : (0.5 : Float).isFinite = true := by decide +kernel
    have hnot : (0 / 0 : Float).isFinite = false := by decide +kernel
    have hdate : dateText ⟨0⟩ = "1970-01-01" := by decide +kernel
    have hmoment : momentText "T" ⟨⟨0⟩, ⟨3661, 500000000⟩⟩ = "1970-01-01T01:01:01" := by decide +kernel
    simp only [mixedCell, Cell.erase, Cell.eraseAll, hhalf, hnot, hdate, hmoment, if_true, Bool.false_eq_true, if_false]
  constructor
  · rw [← herase]
    exact (hcell mixedCell mixedCell_readsFloats (by decide +kernel)).1
  · refine (hrow mixedRow (by decide) ?_ (by decide +kernel)).1
    exact List.forall_mem_cons.mpr ⟨mixedCell_readsFloats, List.forall_mem_singleton.mpr nofun⟩

end PortfolioReports
