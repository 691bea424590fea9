import PortfolioReports.Proofs.Calendar.Stamp
import PortfolioReports.Proofs.Json.ReadBack
import PortfolioReports.Proofs.Uuid
import PortfolioReports.Store.Basic
import PortfolioReports.Store.Column

namespace PortfolioReports

open Calendar

namespace Stored

@[simp] theorem readUuid_toText (column : Nat) (u : Uuid) : readUuid column u.toText = .ok u := by
  simp [readUuid, Uuid.read_toText]

@[simp] theorem readWord_name {α : Type} [Vocabulary α] (column : Nat) (a : α) :
    readWord column (Vocabulary.name a) = .ok a := by
  simp [readWord, Vocabulary.ofName?_name]

theorem name_of_readWord {α : Type} [Vocabulary α] {column : Nat} {s : String} {a : α} (h : readWord column s = .ok a) :
    Vocabulary.name a = s := by
  unfold readWord at h
  split at h
  · rename_i hname
    cases h
    exact Vocabulary.name_of_ofName? hname
  · cases h

theorem readTime_utcText (column : Nat) {m : Moment} (h : m.Storable) :
    readTime column (utcText m) = .ok m := by
  simp [readTime, h.readStamp_utcText]

@[simp] theorem readOptional_uuid (column : Nat) (u? : Option Uuid) :
    readOptional readUuid column (u?.map Uuid.toText) = .ok u? := by
  cases u? <;> simp [readOptional, Except.map]

theorem readOptional_time (column : Nat) {m? : Option Moment} (h : ∀ m, m? = some m → m.Storable) :
    readOptional readTime column (m?.map utcText) = .ok m? := by
  cases m? with
  | none => rfl
  | some m => simp [readOptional, readTime_utcText column (h m rfl), Except.map]

section Json

variable {α : Type} {shape : Json.Shape} {read : Json → Option α} (column : Nat) {j : Json} {a : α}

theorem readJson_print_eq_ok_iff (hdepth : j.depth ≤ Json.depthLimit) :
    readJson shape read column j.print = .ok a ↔ read j.reread = some a := by
  rw [readJson, Json.within?_parse?_print read hdepth]
  cases read j.reread with
  | none => exact ⟨nofun, nofun⟩
  | some b => exact ⟨fun h => congrArg some (Except.ok.inj h), fun h => congrArg Except.ok (Option.some.inj h)⟩

theorem readJson_print (hdepth : j.depth ≤ Json.depthLimit) (hread : read j.reread = some a) :
    readJson shape read column j.print = .ok a := (readJson_print_eq_ok_iff column hdepth).mpr hread

end Json

theorem beq_self_of_isFinite {x : Float} (h : x.isFinite = true) : (x == x) = true := by
  change x.toModel.unpack.beq x.toModel.unpack = true
  rw [Float.isFinite, Float.Model.isFinite] at h
  cases hx : x.toModel.unpack with
  | notANumber =>
    rw [hx] at h
    cases h
  | infinity sign => cases sign <;> rfl
  | zero sign => cases sign <;> rfl
  | finite sign mantissa exponent hmantissa =>
    have hsame : (compare exponent exponent).then (compare mantissa mantissa) = .eq := by simp
    cases sign with
    | positive => exact congrArg (fun o => some o == some .eq) hsame
    | negative => exact congrArg (fun o => some o.swap == some .eq) hsame

theorem not_isNaN_of_isFinite {x : Float} (h : x.isFinite = true) : x.isNaN = false := by
  rw [Float.isFinite, Float.Model.isFinite] at h
  rw [Float.isNaN, Float.Model.isNaN]
  cases hx : x.toModel.unpack with
  | notANumber =>
    rw [hx] at h
    cases h
  | _ => rfl

theorem real_of_isFinite {x : Float} (h : x.isFinite = true) : ∃ y, real x = some y ∧ (x == y) = true := by
  rw [real, not_isNaN_of_isFinite h, if_neg Bool.false_ne_true]
  split
  · rename_i hzero
    exact ⟨0, rfl, hzero⟩
  · exact ⟨x, rfl, beq_self_of_isFinite h⟩

end Stored

theorem Store.of_readFirst {ρ α : Type} {holds : ρ → Bool} {read : ρ → Except StoreFault α} {rows : List ρ} {a : α}
    (h : readFirst holds read rows = .ok (some a)) : ∃ r ∈ rows, holds r = true ∧ read r = .ok a := by
  unfold readFirst at h
  split at h
  · rename_i r hfind
    cases hread : read r with
    | error f => simp [hread, Except.map] at h
    | ok a' =>
      obtain rfl : a' = a := by simpa [hread, Except.map] using h
      exact ⟨r, List.mem_of_find?_eq_some hfind, List.find?_some hfind, hread⟩
  · cases h

end PortfolioReports
