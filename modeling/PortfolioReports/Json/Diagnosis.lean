import PortfolioReports.Json.Shape
import PortfolioReports.Json.Token

namespace PortfolioReports.Json

def enter (levels : Nat) (cs : List Char) : Except ReadError Nat :=
  match levels with
  | 0 => faultAt .tooDeep cs
  | levels + 1 => .ok levels

def mistaken (expected : String) (cs : List Char) : Except ReadError (List Char) :=
  match cs with
  | '[' :: _ => faultBefore (.wrongType .list expected) cs
  | '\x7b' :: _ => faultBefore (.wrongType .object expected) cs
  | cs => do
    let (j, rest) ← scanScalar .read cs
    faultBefore (.wrongType (.of j) expected) rest

def checkScalar (shape : Shape) (cs : List Char) : Except ReadError (List Char) :=
  match shape, cs with
  | .ignored, cs => Prod.snd <$> scanScalar .skip cs
  | shape, '[' :: cs => faultBefore (.wrongType .list shape.expected) ('[' :: cs)
  | shape, '\x7b' :: cs => faultBefore (.wrongType .object shape.expected) ('\x7b' :: cs)
  | shape, cs => do
    let (j, rest) ← scanScalar .read cs
    match shape.scalarFault? j with
    | none => pure rest
    | some fault => faultBefore fault rest

def checkName (known : Option (List String)) (cs : List Char) : Except ReadError (List Char) := do
  let (name?, rest) ← scanString .read cs
  match known, name? with
  | some words, some name => if words.contains name then pure rest else faultBefore (.unknownWord name words) rest
  | _, _ => pure rest

def checkWord (levels : Nat) (known : Option (List String)) (cs : List Char) : Except ReadError (List Char) :=
  match cs with
  | [] => faultBefore .endInValue []
  | '"' :: cs => checkName known cs
  | '\x7b' :: cs => do
    let _ ← enter levels ('\x7b' :: cs)
    let cs ← match skipSpace cs with
      | '"' :: cs => checkName known cs
      | cs => mistaken (Shape.word known).expected cs
    let cs ← match skipSpace (← scanColon cs) with
      | 'n' :: cs => Prod.snd <$> scanScalar .read ('n' :: cs)
      | cs => mistaken "unit" cs
    match skipSpace cs with
    | '\x7d' :: cs => pure cs
    | [] => faultBefore .endInObject []
    | cs => faultBefore .expectedValue cs
  | cs => faultAt .expectedValue cs

def faultInObject (fault : ReadFault) (cs : List Char) : Except ReadError (List Char) :=
  match skipSpace cs with
  | '\x7d' :: cs => faultBefore fault cs
  | cs => faultBefore fault cs

def missing? (fields : List (Member Shape)) (seen : List String) : Option (Member Shape × Nat) :=
  fields.zipIdx.find? fun f => f.1.isRequired && !seen.contains f.1.name

def Shape.mode : Shape → Mode
  | .ignored => .skip
  | _ => .read

mutual

/-- Checks one value, with so many levels below it that may be entered. The fuel bounds the number of
values, items and fields begun. -/
def check (fuel levels : Nat) (shape : Shape) (cs : List Char) : Except ReadError (List Char) :=
  match fuel with
  | 0 => faultBefore .endInValue cs
  | fuel + 1 =>
    match shape, skipSpace cs with
    | .ignored, '[' :: cs => checkItems fuel levels .ignored true cs
    | .ignored, '\x7b' :: cs => checkEntries fuel levels .ignored true cs
    | .document, '[' :: cs => do checkItems fuel (← enter levels ('[' :: cs)) .document true cs
    | .document, '\x7b' :: cs => do checkEntries fuel (← enter levels ('\x7b' :: cs)) .document true cs
    | .cell, '[' :: cs => do checkItems fuel (← enter levels ('[' :: cs)) .cell true cs
    | .cell, '\x7b' :: cs => do
      let _ ← enter levels ('\x7b' :: cs)
      faultInObject (.wrongType .object Shape.cell.expected) cs
    | .optional _, 'n' :: cs => Prod.snd <$> scanScalar .read ('n' :: cs)
    | .optional shape, cs => check fuel levels shape cs
    | .word known, cs => checkWord levels known cs
    | .list shape, '[' :: cs => do checkItems fuel (← enter levels ('[' :: cs)) shape true cs
    | .record title fields, '[' :: cs => do
      checkPlaces fuel (← enter levels ('[' :: cs)) title fields fields true cs
    | .record _ fields, '\x7b' :: cs => do
      checkFields fuel (← enter levels ('\x7b' :: cs)) fields [] true cs
    | shape, cs => checkScalar shape cs

def checkItems (fuel levels : Nat) (shape : Shape) (first : Bool) (cs : List Char) :
    Except ReadError (List Char) :=
  match fuel with
  | 0 => faultBefore .endInList cs
  | fuel + 1 => do
    match ← nextItem shape.mode first cs with
    | .done cs => pure cs
    | .more cs => checkItems fuel levels shape false (← check fuel levels shape cs)

def checkEntries (fuel levels : Nat) (shape : Shape) (first : Bool) (cs : List Char) :
    Except ReadError (List Char) :=
  match fuel with
  | 0 => faultBefore .endInObject cs
  | fuel + 1 => do
    match ← nextKey shape.mode first cs with
    | .done cs => pure cs
    | .more cs =>
      let (_, cs) ← scanString shape.mode cs
      checkEntries fuel levels shape false (← check fuel levels shape (← scanColon cs))

def checkFields (fuel levels : Nat) (fields : List (Member Shape)) (seen : List String) (first : Bool)
    (cs : List Char) : Except ReadError (List Char) :=
  match fuel with
  | 0 => faultBefore .endInObject cs
  | fuel + 1 => do
    match ← nextKey .read first cs with
    | .done cs => match missing? fields seen with
      | some (f, _) => faultBefore (.missingField f.name) cs
      | none => pure cs
    | .more cs =>
      let (key?, cs) ← scanString .read cs
      match key?.bind fun key => fields.find? (Member.isCalled · key) with
      | some f =>
        if seen.contains f.name then faultInObject (.repeatedField f.name) cs
        else do
          let cs ← check fuel levels f.shape (← scanColon cs)
          checkFields fuel levels fields (f.name :: seen) false cs
      | none =>
        let cs ← check fuel levels .ignored (← scanColon cs)
        checkFields fuel levels fields seen false cs

def checkPlaces (fuel levels : Nat) (title : String) (all left : List (Member Shape)) (first : Bool)
    (cs : List Char) : Except ReadError (List Char) :=
  match fuel with
  | 0 => faultBefore .endInList cs
  | fuel + 1 => do
    match left with
    | [] => match skipSpace cs with
      | ']' :: cs => pure cs
      | ',' :: cs => match skipSpace cs with
        | ']' :: cs => faultAt .trailingComma (']' :: cs)
        | cs => faultAt .trailingCharacters cs
      | [] => faultBefore .endInList []
      | cs => faultAt .trailingCharacters cs
    | f :: left =>
      match ← nextItem .read first cs with
      | .done cs => match missing? (f :: left) [] with
        | some (_, i) => faultBefore (.tooFewItems (all.length - (left.length + 1) + i) title all.length) cs
        | none => pure cs
      | .more cs => checkPlaces fuel levels title all left false (← check fuel levels f.shape cs)

end

def diagnose? (shape : Shape) (s : String) : Option String :=
  match check (8 * (s.length + 2)) depthLimit shape s.toList with
  | .error e => some (e.describe s)
  | .ok rest => match scanEnd rest with
    | .error e => some (e.describe s)
    | .ok _ => none

end PortfolioReports.Json
