import PortfolioReports.Json.Token

/-!
Tokens that are well formed and denote nothing are kept as unreadable values, so that they are refused only where they
are read.
-/

namespace PortfolioReports.Json

mutual

/-- One value. The fuel bounds the number of values, items and fields begun. -/
def scanValue (fuel : Nat) (cs : List Char) : Except ReadError (Json × List Char) :=
  match fuel with
  | 0 => faultBefore .endInValue cs
  | fuel + 1 =>
    match skipSpace cs with
    | '[' :: cs => do
      let (items, cs) ← scanItems fuel true cs
      pure (list items, cs)
    | '\x7b' :: cs => do
      let (fields, cs) ← scanFields fuel true cs
      pure (match fields with | some fs => object fs | none => unreadable, cs)
    | cs => scanScalar .skip cs

def scanItems (fuel : Nat) (first : Bool) (cs : List Char) : Except ReadError (List Json × List Char) :=
  match fuel with
  | 0 => faultBefore .endInList cs
  | fuel + 1 => do
    match ← nextItem .skip first cs with
    | .done cs => pure ([], cs)
    | .more cs =>
      let (j, cs) ← scanValue fuel cs
      let (js, cs) ← scanItems fuel false cs
      pure (j :: js, cs)

def scanFields (fuel : Nat) (first : Bool) (cs : List Char) :
    Except ReadError (Option (List (String × Json)) × List Char) :=
  match fuel with
  | 0 => faultBefore .endInObject cs
  | fuel + 1 => do
    match ← nextKey .skip first cs with
    | .done cs => pure (some [], cs)
    | .more cs =>
      let (k, cs) ← scanString .skip cs
      let (j, cs) ← scanValue fuel (← scanColon cs)
      let (fs, cs) ← scanFields fuel false cs
      pure (k.bind fun k => fs.map ((k, j) :: ·), cs)

end

def parse? (s : String) : Option Json :=
  match scanValue (3 * s.length + 3) s.toList with
  | .ok (j, rest) => match scanEnd rest with
    | .ok _ => some j
    | .error _ => none
  | .error _ => none

end PortfolioReports.Json
