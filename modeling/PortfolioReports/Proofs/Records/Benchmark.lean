import PortfolioReports.Proofs.Table.Cell
import PortfolioReports.Records.Benchmark

namespace PortfolioReports

open Json

namespace Json

theorem asFloat?_ofFloat_reread {x y : Float} :
    asFloat? (ofFloat x).reread = some y ↔ x.isFinite = true ∧ y = rereadFloat x := by
  cases hx : x.isFinite with
  | true =>
    rw [ofFloat, if_pos hx, reread, if_pos hx]
    exact ⟨fun h => ⟨rfl, (Option.some.inj h).symm⟩, fun h => congrArg some h.2.symm⟩
  | false =>
    rw [ofFloat, if_neg (Bool.eq_false_iff.mp hx)]
    constructor
    · intro h
      cases h
    · rintro ⟨h, -⟩
      cases h

theorem asNat?_ofNat_reread {bits n : Nat} (h : n < 2 ^ bits) (hbits : bits ≤ 64) :
    asNat? bits (ofNat n).reread = some n := by
  have hle : 2 ^ bits ≤ 2 ^ 64 := Nat.pow_le_pow_right (by omega) hbits
  have hmost : (n : Int) ≤ Nat.pow 2 bits - 1 := Int.le_sub_one_of_lt (Int.ofNat_lt.mpr h)
  rw [ofNat, reread_int (by omega) (by omega), asNat?, asIntIn?, if_pos ⟨Int.natCast_nonneg n, hmost⟩]
  exact congrArg some (Int.toNat_natCast n)

end Json

namespace BenchmarkMetric

structure Storable (m : BenchmarkMetric Float) : Prop where
  value : ReadsFloat m.value
  spread : ∀ x ∈ m.spread.anchors, ReadsFloat x
  sampleSize : m.sampleSize < 2 ^ 32

structure IsFinite (m : BenchmarkMetric Float) : Prop where
  value : m.value.isFinite = true
  spread : ∀ x ∈ m.spread.anchors, x.isFinite = true

instance (m : BenchmarkMetric Float) : Decidable m.IsFinite :=
  decidable_of_iff (m.value.isFinite = true ∧ ∀ x ∈ m.spread.anchors, x.isFinite = true)
    ⟨fun h => ⟨h.1, h.2⟩, fun h => ⟨h.value, h.spread⟩⟩

def reread (m : BenchmarkMetric Float) : BenchmarkMetric Float :=
  { m with value := rereadFloat m.value, spread := m.spread.map rereadFloat }

theorem Storable.isFinite {m : BenchmarkMetric Float} (h : m.Storable) : m.IsFinite :=
  ⟨(readsFloat_iff.mp h.value).1, fun x hx => (readsFloat_iff.mp (h.spread x hx)).1⟩

theorem map_shortName {names : List String} (hnames : ∀ name ∈ names, shortName name = name)
    {fields : List (String × Json)} (hfields : fields.map Prod.fst = names) :
    fields.map (fun f => (shortName f.1, f.2)) = fields := by
  have hsame : ∀ f ∈ fields, (shortName f.1, f.2) = f :=
    fun f hf => Prod.ext (hnames f.1 (hfields ▸ List.mem_map_of_mem hf)) rfl
  rw [List.map_congr_left hsame, List.map_id']

/-- All numbers of a metric but the size of its sample may be unreadable. -/
theorem ofJson?_toJson_eq {m : BenchmarkMetric Float} (hsize : m.sampleSize < 2 ^ 32) : ofJson? m.toJson.reread = (do
    let value ← asFloat? (ofFloat m.value).reread
    let p25 ← asFloat? (ofFloat m.spread.p25).reread
    let p50 ← asFloat? (ofFloat m.spread.p50).reread
    let p75 ← asFloat? (ofFloat m.spread.p75).reread
    let p90 ← asFloat? (ofFloat m.spread.p90).reread
    let min ← asFloat? (ofFloat m.spread.min).reread
    let max ← asFloat? (ofFloat m.spread.max).reread
    pure { m with value, spread := ⟨p25, p50, p75, p90, min, max⟩ }) := by
  have hkeys : ([("metric", text m.metric), ("value", ofFloat m.value), ("unit", text m.unit),
      ("p25", ofFloat m.spread.p25), ("p50", ofFloat m.spread.p50), ("p75", ofFloat m.spread.p75),
      ("p90", ofFloat m.spread.p90), ("min", ofFloat m.spread.min), ("max", ofFloat m.spread.max),
      ("sample_size", ofNat m.sampleSize)].map Prod.fst).Sublist
      ["metric", "value", "unit", "p25", "p50", "p75", "p90", "min", "max", "sample_size"] := List.Sublist.refl _
  obtain ⟨r, hr, hget⟩ := record?_reread hkeys (by decide)
  have hfloat : ∀ name x, r.get? name = (some (ofFloat x)).map Json.reread →
      r.field name asFloat? = asFloat? (ofFloat x).reread := by
    intro name x hfield
    rw [Record.field, hfield, Option.map_some, Option.bind_some]
  have hmetric : r.field "metric" asText? = some m.metric := Record.field_eq (text m.metric) (by simp [hget]) rfl
  have hvalue : r.fieldOr "value" asFloat? 0 = asFloat? (ofFloat m.value).reread := by rw [Record.fieldOr, hget]; rfl
  have hunit : r.fieldOr "unit" asText? "" = some m.unit :=
    Record.fieldOr_eq (text m.unit) (by simp [hget, List.lookup_cons]) rfl
  have hp25 := hfloat "p25" m.spread.p25 (by simp [hget, List.lookup_cons])
  have hp50 := hfloat "p50" m.spread.p50 (by simp [hget, List.lookup_cons])
  have hp75 := hfloat "p75" m.spread.p75 (by simp [hget, List.lookup_cons])
  have hp90 := hfloat "p90" m.spread.p90 (by simp [hget, List.lookup_cons])
  have hmin := hfloat "min" m.spread.min (by simp [hget, List.lookup_cons])
  have hmax := hfloat "max" m.spread.max (by simp [hget, List.lookup_cons])
  have hsampleSize : r.fieldOr "sample_size" (asNat? 32) 0 = some m.sampleSize :=
    Record.fieldOr_eq (ofNat m.sampleSize) (by simp [hget, List.lookup_cons]) (asNat?_ofNat_reread hsize (by decide))
  have hnames : ∀ name ∈ ["metric", "value", "unit", "p25", "p50", "p75", "p90", "min", "max", "sample_size"],
      shortName name = name := by decide
  rw [toJson, Json.reread, ofJson?, map_shortName hnames rfl, ← Json.reread, hr]
  simp only [Option.bind_eq_bind, Option.bind_some, hmetric, hvalue, hunit, hp25, hp50, hp75, hp90, hmin, hmax,
    hsampleSize]

theorem ofJson?_toJson_eq_some_iff {m m' : BenchmarkMetric Float} (hsize : m.sampleSize < 2 ^ 32) :
    ofJson? m.toJson.reread = some m' ↔ m.IsFinite ∧ m' = m.reread := by
  rw [ofJson?_toJson_eq hsize]
  simp only [Option.bind_eq_bind, Option.bind_eq_some_iff, asFloat?_ofFloat_reread]
  constructor
  · rintro ⟨_, ⟨hvalue, rfl⟩, _, ⟨hp25, rfl⟩, _, ⟨hp50, rfl⟩, _, ⟨hp75, rfl⟩, _, ⟨hp90, rfl⟩, _, ⟨hmin, rfl⟩, _,
      ⟨hmax, rfl⟩, heq⟩
    refine ⟨⟨hvalue, ?_⟩, (Option.some.inj heq).symm⟩
    simp [Spread.anchors, hp25, hp50, hp75, hp90, hmin, hmax]
  · rintro ⟨hfinite, rfl⟩
    have hspread := hfinite.spread
    simp only [Spread.anchors, List.forall_mem_cons] at hspread
    simp [hfinite.value, hspread, reread, Spread.map]

theorem ofJson?_toJson {m : BenchmarkMetric Float} (h : m.Storable) : ofJson? m.toJson.reread = some m := by
  have hspread : m.spread.map rereadFloat = m.spread := by
    have hsame : ∀ x ∈ m.spread.anchors, rereadFloat x = x := fun x hx => (readsFloat_iff.mp (h.spread x hx)).2
    simp only [Spread.anchors, List.forall_mem_cons] at hsame
    simp [Spread.map, hsame]
  have hsame : m.reread = m := by rw [reread, (readsFloat_iff.mp h.value).2, hspread]
  exact (ofJson?_toJson_eq_some_iff h.sampleSize).mpr ⟨h.isFinite, hsame.symm⟩

theorem depth_toJson_le {n : Nat} (m : BenchmarkMetric Float) : m.toJson.depth ≤ n + 1 := by
  refine depth_object_le_iff.mpr ?_
  simp [Cell.depth_ofFloat, depth, ofNat]

end BenchmarkMetric

end PortfolioReports
