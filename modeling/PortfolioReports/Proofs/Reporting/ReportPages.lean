import PortfolioReports.Proofs.Store.Order
import PortfolioReports.Proofs.Store.ReadBack
import PortfolioReports.Reporting.Reports

namespace PortfolioReports

section Cutting

variable {α : Type} {size : Nat} {l : List α}

def pagesOf (size : Nat) (l : List α) : List (List α) :=
  (List.range ((l.length + size - 1) / size)).map fun i => (l.drop (i * size)).take size

theorem length_pagesOf : (pagesOf size l).length = (l.length + size - 1) / size := by
  rw [pagesOf, List.length_map, List.length_range]

theorem lt_length_pagesOf_iff (hsize : 0 < size) {i : Nat} : i < (pagesOf size l).length ↔ i * size < l.length := by
  rw [length_pagesOf, Nat.lt_iff_add_one_le, Nat.le_div_iff_mul_le hsize, Nat.add_mul]
  omega

theorem getElem?_pagesOf {i : Nat} (hi : i < (pagesOf size l).length) :
    (pagesOf size l)[i]? = some ((l.drop (i * size)).take size) := by
  rw [length_pagesOf] at hi
  simp [pagesOf, hi]

theorem flatten_windows (n : Nat) :
    ((List.range n).map fun i => (l.drop (i * size)).take size).flatten = l.take (n * size) := by
  induction n with
  | zero => simp
  | succ n ih =>
    rw [List.range_succ, List.map_append, List.flatten_append, ih, List.map_singleton, List.flatten_singleton,
      Nat.succ_mul, List.take_add]

theorem flatten_pagesOf (hsize : 0 < size) : (pagesOf size l).flatten = l := by
  have hall : l.length ≤ (pagesOf size l).length * size :=
    Nat.le_of_not_lt fun hlt => Nat.lt_irrefl _ ((lt_length_pagesOf_iff hsize).mpr hlt)
  rw [length_pagesOf] at hall
  rw [pagesOf, flatten_windows, List.take_of_length_le hall]

theorem length_of_getElem?_pagesOf {i : Nat} {page : List α} (h : (pagesOf size l)[i]? = some page) :
    page.length = min size (l.length - i * size) := by
  have hi := (List.getElem?_eq_some_iff.mp h).1
  rw [getElem?_pagesOf hi] at h
  rw [← Option.some.inj h, List.length_take, List.length_drop]

end Cutting

namespace ReportFilter

theorem size_pos (f : ReportFilter) : 0 < f.size.toNat := by
  rw [size]
  split
  · decide
  · rename_i hsize
    rw [← UInt32.toNat_inj] at hsize
    exact Nat.pos_of_ne_zero hsize

def skipped (f : ReportFilter) : Nat := (max f.page.toNat 1 - 1) * f.size.toNat

theorem skipped_eq (f : ReportFilter) : f.skipped = (f.page.toNat - 1) * f.size.toNat :=
  congrArg (· * f.size.toNat) (by omega)

theorem toNat_pageNumber (f : ReportFilter) : f.pageNumber.toNat = max f.page.toNat 1 := by
  rw [pageNumber]
  split
  · rename_i hzero
    rw [hzero]
    rfl
  · rename_i hzero
    rw [← UInt32.toNat_inj] at hzero
    exact (Nat.max_eq_left (Nat.pos_of_ne_zero hzero)).symm

theorem pageOffset_eq (f : ReportFilter) :
    Store.pageOffset f = if f.skipped < UInt32.size then .ok f.skipped else .error .connectionClosed := by
  rw [Store.pageOffset, toNat_pageNumber]
  rfl

theorem pageOffset_of_lt {f : ReportFilter} (h : f.skipped < UInt32.size) : Store.pageOffset f = .ok f.skipped := by
  rw [pageOffset_eq, if_pos h]

theorem pageOffset_of_le {f : ReportFilter} (h : UInt32.size ≤ f.skipped) :
    Store.pageOffset f = .error .connectionClosed := by
  rw [pageOffset_eq, if_neg (Nat.not_lt.mpr h)]

theorem skipped_first (f : ReportFilter) : ({ f with page := 1 } : ReportFilter).skipped = 0 := Nat.zero_mul _

end ReportFilter

theorem Text.isTooLong_iff (search : String) : isTooLong search = true ↔ 49998 < search.utf8ByteSize := by
  have hpercent : "%".utf8ByteSize = 1 := rfl
  rw [isTooLong, decide_eq_true_iff, String.utf8ByteSize_append, String.utf8ByteSize_append, hpercent, longestPattern]
  omega

namespace Store

/-- No report is compared with a text that is too long to search for. -/
def CanSearch (s : Store) (f : ReportFilter) : Prop :=
  f.search?.any Text.isTooLong = true → s.reports.any (ReportRow.passesBare f) = false

def CanRead (s : Store) (f : ReportFilter) : Prop := ∀ r ∈ s.reports, r.passes f = true → ∃ x, r.toReport = .ok x

/-- The rows of a listing and the reports on its pages, whatever page the filter itself asks for. A page that begins
where 32 bits no longer tell it is not answered, and is none of these. -/
structure ListsInPages (s : Store) (f : ReportFilter) (rows : List ReportRow) (pages : List (List Report)) : Prop where
  perm : rows.Perm (s.reports.filter (ReportRow.passes f))
  sorted : rows.Pairwise fun a b => b.updatedAt < a.updatedAt ∨ a.updatedAt = b.updatedAt ∧ a.id < b.id
  read : rows.mapM ReportRow.toReport = .ok pages.flatten
  reached : ∀ number : UInt32, number.toNat - 1 < pages.length →
    ({ f with page := number } : ReportFilter).skipped < UInt32.size
  listed : ∀ (number : UInt32) (source : StatementPair → FetchCourse),
    ({ f with page := number } : ReportFilter).skipped < UInt32.size → ∃ p : Page Report,
      (Reporting.listReports { f with page := number }).run source s = (s, .ok p) ∧ p.total = rows.length ∧
        p.totalPages.toNat = pages.length ∧ ∀ page, pages[number.toNat - 1]? = some page → p.items = page
  full : ∀ (i : Nat) (page : List Report), pages[i]? = some page → i + 1 < pages.length → page.length = f.size.toNat
  last : ∀ (i : Nat) (page : List Report), pages[i]? = some page → i + 1 = pages.length →
    0 < page.length ∧ page.length ≤ f.size.toNat
  none_iff : pages.length = 0 ↔ rows = []

variable {s : Store} {f : ReportFilter}

theorem listReports_of_canSearch (h : s.CanSearch f) : s.listReports f = (pageOffset f >>= fun start =>
    ((((s.matchingReports f).drop start).take f.size.toNat).mapM ReportRow.toReport).map
      fun items => (items, (s.matchingReports f).length)) := by
  have hcompared : (f.search?.any Text.isTooLong && s.reports.any (ReportRow.passesBare f)) = false := by
    cases hlong : f.search?.any Text.isTooLong with
    | false => rfl
    | true => exact h hlong
  simp only [listReports, hcompared]
  rfl

theorem listReports_eq_ok {items : List Report} (hsearch : s.CanSearch f) (hfits : f.skipped < UInt32.size)
    (hitems : (s.matchingReports f).mapM ReportRow.toReport = .ok items) :
    s.listReports f = .ok ((items.drop f.skipped).take f.size.toNat, items.length) := by
  have hpairs := mapM_eq_ok_iff.mp hitems
  have hpage : (((s.matchingReports f).drop f.skipped).take f.size.toNat).mapM ReportRow.toReport =
      .ok ((items.drop f.skipped).take f.size.toNat) :=
    mapM_eq_ok_iff.mpr (List.forall₂_take _ (List.forall₂_drop _ hpairs))
  rw [listReports_of_canSearch hsearch, ReportFilter.pageOffset_of_lt hfits, hpairs.length_eq]
  change Except.map _ _ = _
  rw [hpage]
  rfl

theorem canSearch_of_listReports {answer : List Report × Nat} (h : s.listReports f = .ok answer) : s.CanSearch f := by
  intro hlong
  cases hany : s.reports.any (ReportRow.passesBare f) with
  | false => rfl
  | true =>
    simp only [listReports, hlong, hany] at h
    cases h

end Store

theorem Reporting.run_listReports (f : ReportFilter) (source : StatementPair → FetchCourse) (s : Store) :
    (listReports f).run source s = (s, match s.listReports f with
      | .ok answer => .ok (.of answer.1 answer.2 f.pageNumber f.size)
      | .error cause => .error (.database cause)) := by
  have hrun : (listReports f).run source s =
      ((Call.ofStore (s.listReports f)) >>= fun answer => pure (.of answer.1 answer.2 f.pageNumber f.size)).run
        source s := rfl
  rw [hrun]
  cases s.listReports f <;> rfl

namespace Store

variable {s : Store} {f : ReportFilter}

theorem canRead_iff : s.CanRead f ↔ ∃ items, (s.matchingReports f).mapM ReportRow.toReport = .ok items := by
  rw [exists_mapM_eq_ok_iff]
  constructor
  · intro h r hr
    exact h r (mem_matchingReports.mp hr).1 (mem_matchingReports.mp hr).2
  · exact fun h r hr hpasses => h r (mem_matchingReports.mpr ⟨hr, hpasses⟩)

theorem totalPages_of {items : List Report} (page : List Report) (number : UInt32)
    (hcount : items.length < UInt32.size) :
    (Page.of page items.length number f.size).totalPages.toNat = (pagesOf f.size.toNat items).length := by
  have hsize : max f.size.toNat 1 = f.size.toNat := Nat.max_eq_left f.size_pos
  -- there are no more pages than items, so that 32 bits tell their number
  have hle : (pagesOf f.size.toNat items).length ≤ items.length := by
    refine Nat.le_of_not_lt fun hlt => ?_
    have hbeyond := (lt_length_pagesOf_iff f.size_pos).mp hlt
    exact absurd (Nat.le_mul_of_pos_right items.length f.size_pos) (Nat.not_le.mpr hbeyond)
  simp only [Page.of, hsize, ← length_pagesOf]
  exact Nat.mod_eq_of_lt (hle.trans_lt hcount)

theorem skipped_lt_of_lt_length {items : List Report} (hcount : items.length < UInt32.size) {number : UInt32}
    (h : number.toNat - 1 < (pagesOf f.size.toNat items).length) :
    ({ f with page := number } : ReportFilter).skipped < UInt32.size := by
  rw [ReportFilter.skipped_eq]
  exact ((lt_length_pagesOf_iff f.size_pos).mp h).trans hcount

theorem listReports_page {items : List Report} (hsearch : s.CanSearch f)
    (hitems : (s.matchingReports f).mapM ReportRow.toReport = .ok items) (hcount : items.length < UInt32.size)
    (number : UInt32) (source : StatementPair → FetchCourse)
    (hfits : ({ f with page := number } : ReportFilter).skipped < UInt32.size) : ∃ p : Page Report,
    (Reporting.listReports { f with page := number }).run source s = (s, .ok p) ∧ p.total = items.length ∧
      p.totalPages.toNat = (pagesOf f.size.toNat items).length ∧
      ∀ page, (pagesOf f.size.toNat items)[number.toNat - 1]? = some page → p.items = page := by
  have hrun := Reporting.run_listReports { f with page := number } source s
  rw [listReports_eq_ok (f := { f with page := number }) hsearch hfits hitems] at hrun
  refine ⟨_, hrun, rfl, totalPages_of _ _ hcount, fun page hpage => ?_⟩
  have hlt := (List.getElem?_eq_some_iff.mp hpage).1
  rw [getElem?_pagesOf hlt] at hpage
  rw [← Option.some.inj hpage]
  exact congrArg (fun n => (items.drop n).take f.size.toNat) (ReportFilter.skipped_eq _)

theorem listsInPages {items : List Report} (hids : s.UniqueIds) (hsearch : s.CanSearch f)
    (hitems : (s.matchingReports f).mapM ReportRow.toReport = .ok items) (hcount : items.length < UInt32.size) :
    s.ListsInPages f (s.matchingReports f) (pagesOf f.size.toNat items) where
  perm := s.matchingReports_perm f
  sorted := (hids.pairwise_matchingReports_lt f).imp fun {a b} => (ReportRow.place_lt_iff a b).mp
  read := by rw [flatten_pagesOf f.size_pos, hitems]
  reached _ := skipped_lt_of_lt_length hcount
  listed number source hfits := by
    rw [(mapM_eq_ok_iff.mp hitems).length_eq]
    exact listReports_page hsearch hitems hcount number source hfits
  full i page hpage hnext := by
    have hfull := (lt_length_pagesOf_iff f.size_pos).mp hnext
    rw [length_of_getElem?_pagesOf hpage]
    rw [Nat.add_mul] at hfull
    omega
  last i page hpage _ := by
    have hlt := (lt_length_pagesOf_iff f.size_pos).mp (List.getElem?_eq_some_iff.mp hpage).1
    have hsize := f.size_pos
    rw [length_of_getElem?_pagesOf hpage]
    omega
  none_iff := by
    have hzero := lt_length_pagesOf_iff (l := items) f.size_pos (i := 0)
    rw [← List.length_eq_zero_iff, (mapM_eq_ok_iff.mp hitems).length_eq]
    omega

namespace ListsInPages

variable {rows : List ReportRow} {pages : List (List Report)}

theorem canSearch (h : s.ListsInPages f rows pages) : s.CanSearch f := by
  -- the first page is never too far behind, whatever page the filter asks for
  have hfirst : ({ f with page := 1 } : ReportFilter).skipped < UInt32.size := by
    rw [f.skipped_first]
    decide
  obtain ⟨p, hp, -⟩ := h.listed 1 (fun _ => .notBegun) hfirst
  rw [Reporting.run_listReports] at hp
  cases hanswer : s.listReports { f with page := 1 } with
  | ok answer => exact canSearch_of_listReports (f := { f with page := 1 }) hanswer
  | error cause =>
    rw [hanswer] at hp
    cases hp

theorem canRead (h : s.ListsInPages f rows pages) : s.CanRead f := fun r hr hpasses =>
  exists_mapM_eq_ok_iff.mp ⟨_, h.read⟩ r (h.perm.mem_iff.mpr (List.mem_filter.mpr ⟨hr, hpasses⟩))

end ListsInPages

theorem CanRead.exists_listsInPages (hread : s.CanRead f) (hids : s.UniqueIds) (hsearch : s.CanSearch f)
    (hcount : (s.reports.filter (ReportRow.passes f)).length < UInt32.size) :
    ∃ rows pages, s.ListsInPages f rows pages := by
  obtain ⟨items, hitems⟩ := canRead_iff.mp hread
  rw [← (s.matchingReports_perm f).length_eq, (mapM_eq_ok_iff.mp hitems).length_eq] at hcount
  exact ⟨_, _, listsInPages hids hsearch hitems hcount⟩

theorem exists_listsInPages_iff (hids : s.UniqueIds)
    (hcount : (s.reports.filter (ReportRow.passes f)).length < UInt32.size) :
    (∃ rows pages, s.ListsInPages f rows pages) ↔ s.CanSearch f ∧ s.CanRead f := by
  constructor
  · rintro ⟨rows, pages, h⟩
    exact ⟨h.canSearch, h.canRead⟩
  · rintro ⟨hsearch, hread⟩
    exact hread.exists_listsInPages hids hsearch hcount

def draft (id : Uuid) : Report where
  id := id
  name := "Draft"
  description? := none
  category := .custom
  query := .empty
  createdBy? := none
  visibility := .everyone
  version := 1
  isTemplate := false
  basedOn? := none
  createdAt := firstMoment
  updatedAt := firstMoment
  deletedAt? := none

theorem draft_storable (id : Uuid) : (draft id).Storable where
  createdAt := firstMoment_storable
  updatedAt := firstMoment_storable
  deletedAt := nofun
  operands := nofun
  depth := show ReportQuery.empty.toJson.depth ≤ Json.depthLimit by decide

def draftIds : List Uuid := [ones, .nil, ⟨Vector.replicate 32 ⟨2, by decide⟩⟩]

def threeDrafts : Store := ⟨draftIds.map fun id => .ofReport (draft id), [], [], [], [], []⟩

def pairs : ReportFilter := { ReportFilter.all with pageSize := 2 }

theorem exists_listsInPages_iff_threeDrafts : threeDrafts.UniqueIds ∧
    (threeDrafts.reports.filter (ReportRow.passes pairs)).length < UInt32.size ∧
    ∃ rows pages, threeDrafts.ListsInPages pairs rows pages := by
  have hids : threeDrafts.UniqueIds := by decide
  have hcount : (threeDrafts.reports.filter (ReportRow.passes pairs)).length < UInt32.size :=
    (List.length_filter_le _ _).trans_lt (by decide)
  have hread : threeDrafts.CanRead pairs := by
    rintro r hr -
    obtain ⟨id, -, rfl⟩ := List.mem_map.mp hr
    exact ⟨_, ReportRow.toReport_ofReport (draft_storable id)⟩
  exact ⟨hids, hcount, (exists_listsInPages_iff hids hcount).mpr ⟨nofun, hread⟩⟩

def oneDraft : Store := ⟨[.ofReport (draft .nil)], [], [], [], [], []⟩

theorem oneDraft_canRead (f : ReportFilter) : oneDraft.CanRead f := by
  intro r hr _
  rw [List.mem_singleton.mp hr]
  exact ⟨_, ReportRow.toReport_ofReport (draft_storable .nil)⟩

theorem oneDraft_listed {f : ReportFilter} (h : (ReportRow.ofReport (draft .nil)).passes f = true) :
    (oneDraft.matchingReports f).mapM ReportRow.toReport = .ok [draft .nil] := by
  have hpasses : oneDraft.reports.filter (ReportRow.passes f) = [.ofReport (draft .nil)] := List.filter_cons_of_pos h
  rw [matchingReports, hpasses, List.mergeSort_singleton]
  exact mapM_eq_ok_iff.mpr (.cons (ReportRow.toReport_ofReport (draft_storable .nil)) .nil)

def longSearch : ReportFilter := { ReportFilter.all with search? := some (String.ofList (List.replicate 49999 'a')) }

def damagedDraft : Store := ⟨[{ ReportRow.ofReport (draft .nil) with query := "x" }], [], [], [], [], []⟩

theorem not_listsInPages_longSearch :
    (oneDraft.UniqueIds ∧ ¬∃ rows pages, oneDraft.ListsInPages longSearch rows pages) ∧
    damagedDraft.UniqueIds ∧ ¬∃ rows pages, damagedDraft.ListsInPages .all rows pages := by
  refine ⟨⟨by decide, ?_⟩, by decide, ?_⟩
  · rintro ⟨rows, pages, h⟩
    have hlong : longSearch.search?.any Text.isTooLong = true := by
      have hbytes := Text.length_le_utf8ByteSize (String.ofList (List.replicate 49999 'a'))
      rw [String.length_ofList, List.length_replicate] at hbytes
      rw [longSearch, Option.any_some, Text.isTooLong_iff]
      exact hbytes
    have hcompared : oneDraft.reports.any (ReportRow.passesBare longSearch) = true := by rfl
    rw [h.canSearch hlong] at hcompared
    cases hcompared
  · rintro ⟨rows, pages, h⟩
    obtain ⟨x, hx⟩ := h.canRead _ (List.mem_singleton_self _) (by rfl)
    have hquery := (ReportRow.columns_of_toReport hx).query
    have hparse : Json.parse? "x" = none := by rfl
    simp only [Stored.readJson, hparse] at hquery
    cases hquery

section Connection

variable {α β : Type} {x : Except StoreFault α}

def KeepsConnection (x : Except StoreFault α) : Prop := x ≠ .error .connectionClosed

theorem KeepsConnection.bind {f : α → Except StoreFault β} (hx : KeepsConnection x) (hf : ∀ a, KeepsConnection (f a)) :
    KeepsConnection (x >>= f) := by
  cases x with
  | ok a => exact hf a
  | error cause => exact fun h => hx (congrArg Except.error (Except.error.inj h))

theorem KeepsConnection.map (hx : KeepsConnection x) (f : α → β) : KeepsConnection (x.map f) := by
  cases x with
  | ok a => exact nofun
  | error cause => exact fun h => hx (congrArg Except.error (Except.error.inj h))

theorem keepsConnection_mapM {f : α → Except StoreFault β} (hf : ∀ a, KeepsConnection (f a)) (l : List α) :
    KeepsConnection (l.mapM f) := by
  induction l with
  | nil => exact nofun
  | cons a l ih =>
    rw [List.mapM_cons]
    exact (hf a).bind fun b => ih.bind fun bs => nofun

theorem keepsConnection_readUuid (column : Nat) (s : String) : KeepsConnection (Stored.readUuid column s) := by
  unfold Stored.readUuid
  split <;> exact nofun

theorem keepsConnection_readTime (column : Nat) (s : String) : KeepsConnection (Stored.readTime column s) := by
  unfold Stored.readTime
  split <;> exact nofun

theorem keepsConnection_readWord [Vocabulary α] (column : Nat) (s : String) :
    KeepsConnection (Stored.readWord column s : Except StoreFault α) := by
  unfold Stored.readWord
  split <;> exact nofun

theorem keepsConnection_readJson (shape : Json.Shape) (read : Json → Option α) (column : Nat) (s : String) :
    KeepsConnection (Stored.readJson shape read column s) := by
  unfold Stored.readJson
  split <;> exact nofun

theorem keepsConnection_readOptional {read : Nat → String → Except StoreFault α}
    (hread : ∀ column s, KeepsConnection (read column s)) (column : Nat) (s? : Option String) :
    KeepsConnection (Stored.readOptional read column s?) := by
  cases s? with
  | none => exact nofun
  | some s => exact (hread column s).map some

theorem keepsConnection_toReport (r : ReportRow) : KeepsConnection r.toReport := by
  refine (keepsConnection_readUuid _ _).bind fun _ => (keepsConnection_readWord _ _).bind fun _ => ?_
  refine (keepsConnection_readJson _ _ _ _).bind fun _ => ?_
  refine (keepsConnection_readOptional keepsConnection_readUuid _ _).bind fun _ => ?_
  refine (keepsConnection_readWord _ _).bind fun _ => ?_
  refine (keepsConnection_readOptional keepsConnection_readUuid _ _).bind fun _ => ?_
  refine (keepsConnection_readTime _ _).bind fun _ => (keepsConnection_readTime _ _).bind fun _ => ?_
  exact (keepsConnection_readOptional keepsConnection_readTime _ _).bind fun _ => nofun

end Connection

def rowsFrom (s : Store) (f : ReportFilter) (start : Nat) : List ReportRow :=
  ((s.matchingReports f).drop start).take f.size.toNat

/-- The answer is the page asked for, counted exactly, and the length of the listing, unless the search is refused. -/
def ShowsPage (s : Store) (f : ReportFilter) : Prop :=
  s.CanSearch f → s.listReports f =
    ((s.rowsFrom f f.skipped).mapM ReportRow.toReport).map fun items => (items, (s.matchingReports f).length)

variable {s : Store} {f : ReportFilter}

theorem rowsFrom_eq_nil_iff {start : Nat} : s.rowsFrom f start = [] ↔ (s.matchingReports f).length ≤ start := by
  have hsize := f.size_pos
  rw [rowsFrom, List.take_eq_nil_iff, List.drop_eq_nil_iff]
  omega

theorem listReports_of_fits (hsearch : s.CanSearch f) (hfits : f.skipped < UInt32.size) : s.listReports f =
    ((s.rowsFrom f f.skipped).mapM ReportRow.toReport).map fun items => (items, (s.matchingReports f).length) := by
  rw [listReports_of_canSearch hsearch, ReportFilter.pageOffset_of_lt hfits]
  rfl

theorem listReports_of_beyond (hsearch : s.CanSearch f) (hbeyond : UInt32.size ≤ f.skipped) :
    s.listReports f = .error .connectionClosed := by
  rw [listReports_of_canSearch hsearch, ReportFilter.pageOffset_of_le hbeyond]
  rfl

/-- A page is the one asked for just when 32 bits tell its place. Further behind the connection is lost. -/
theorem showsPage_iff (s : Store) (f : ReportFilter) :
    (s.ShowsPage f ↔ (s.CanSearch f → f.skipped < UInt32.size)) ∧
    (s.CanSearch f → UInt32.size ≤ f.skipped → s.listReports f = .error .connectionClosed) := by
  refine ⟨forall_congr' fun hsearch => ⟨fun hshown => ?_, listReports_of_fits hsearch⟩, listReports_of_beyond⟩
  refine Nat.lt_of_not_le fun hbeyond => ?_
  rw [listReports_of_beyond hsearch hbeyond] at hshown
  exact (keepsConnection_mapM keepsConnection_toReport (s.rowsFrom f f.skipped)).map _ hshown.symm

theorem run_under_lost {α : Type} (call : Call α) (mode : StoreMode) (source : StatementPair → FetchCourse)
    (hsearch : s.CanSearch f) (hbeyond : UInt32.size ≤ f.skipped) :
    ((call.under (mode.after ((Reporting.listReports f).run source s).2)).run source s).1 = s := by
  have hlost : mode.after ((Reporting.listReports f).run source s).2 = .lost := by
    rw [Reporting.run_listReports, listReports_of_beyond hsearch hbeyond]
    rfl
  rw [hlost]
  induction call with
  | done result => rfl
  | access kind change next => rfl
  | fetch queries next ih => exact ih _

def farPage : ReportFilter := { ReportFilter.all with page := 2147483649, pageSize := 2 }

theorem farPage_losesConnection : farPage.skipped = 4294967296 ∧ (oneDraft.matchingReports farPage).length = 1 ∧
    oneDraft.rowsFrom farPage farPage.skipped = [] ∧ oneDraft.listReports farPage = .error .connectionClosed ∧
    ¬oneDraft.ShowsPage farPage := by
  have hskipped : farPage.skipped = 4294967296 := by decide
  have hread := oneDraft_listed (f := farPage) (by rfl)
  have hcount : (oneDraft.matchingReports farPage).length = 1 := (mapM_eq_ok_iff.mp hread).length_eq
  have hsearch : oneDraft.CanSearch farPage := nofun
  have hempty : oneDraft.rowsFrom farPage farPage.skipped = [] :=
    rowsFrom_eq_nil_iff.mpr (by rw [hcount, hskipped]; decide)
  have hlost : oneDraft.listReports farPage = .error .connectionClosed :=
    listReports_of_beyond hsearch (Nat.le_of_eq hskipped.symm)
  refine ⟨hskipped, hcount, hempty, hlost, fun hshown => ?_⟩
  have hpage := hshown hsearch
  rw [hlost, hempty] at hpage
  cases hpage

end Store

end PortfolioReports
