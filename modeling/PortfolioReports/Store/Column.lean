import PortfolioReports.Fault
import PortfolioReports.Json.Diagnosis
import PortfolioReports.Json.Parser
import PortfolioReports.Json.Typed

namespace PortfolioReports.Stored

open Calendar

variable {α : Type}

def conversion (column : Nat) (cause : ColumnFault) : Except StoreFault α := .error (.conversion column cause)

def readUuid (column : Nat) (s : String) : Except StoreFault Uuid :=
  match Uuid.read s with
  | .ok u => .ok u
  | .error cause => conversion column (.uuid cause)

def readTime (column : Nat) (s : String) : Except StoreFault Moment :=
  match readStamp s with
  | .ok m => .ok m
  | .error cause => conversion column (.time cause)

def readWord [Vocabulary α] (column : Nat) (s : String) : Except StoreFault α :=
  match Vocabulary.ofName? s with
  | some a => .ok a
  | none => conversion column (.word (Vocabulary.title α) s)

def readJson (shape : Json.Shape) (read : Json → Option α) (column : Nat) (s : String) : Except StoreFault α :=
  match (Json.parse? s).bind (Json.within? read) with
  | some a => .ok a
  | none => conversion column (.json ((Json.diagnose? shape s).getD ""))

def readOptional (read : Nat → String → Except StoreFault α) (column : Nat) :
    Option String → Except StoreFault (Option α)
  | some s => (read column s).map some
  | none => .ok none

/-- A column of real numbers holds nothing in place of an undefined one, and zero without a sign. -/
def real (x : Float) : Option Float := if x.isNaN then none else if x == 0 then some 0 else some x

end PortfolioReports.Stored
