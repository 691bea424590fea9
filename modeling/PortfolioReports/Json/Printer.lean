import PortfolioReports.Json.Basic
import PortfolioReports.Numeric.Layout
import PortfolioReports.Text.Hex

namespace PortfolioReports.Json

open Numeric
open Text (hexChar)

def numberLayout : NumberLayout := ⟨fun e => decide (-5 ≤ e) && decide (e < 16), true, .toEven⟩

def escapeChar (c : Char) : List Char :=
  if c = '"' then ['\\', '"']
  else if c = '\\' then ['\\', '\\']
  else if c = '\x08' then ['\\', 'b']
  else if c = '\t' then ['\\', 't']
  else if c = '\n' then ['\\', 'n']
  else if c = '\x0c' then ['\\', 'f']
  else if c = '\r' then ['\\', 'r']
  else if c.toNat < 0x20 then ['\\', 'u', '0', '0', hexChar ⟨c.toNat / 16 % 16, by omega⟩,
      hexChar ⟨c.toNat % 16, by omega⟩]
  else [c]

def quote (s : String) : String := "\"" ++ String.ofList (s.toList.flatMap escapeChar) ++ "\""

mutual

def print : Json → String
  | null => "null"
  | bool b => if b then "true" else "false"
  | int n => toString n
  | float x => if x.isFinite then numberLayout.render x else "null"
  | text s => quote s
  | list items => "[" ++ ",".intercalate (printItems items) ++ "]"
  | object fields => "\x7b" ++ ",".intercalate (printFields fields) ++ "\x7d"
  | unreadable => "null"

def printItems : List Json → List String
  | [] => []
  | j :: js => print j :: printItems js

def printFields : List (String × Json) → List String
  | [] => []
  | (k, j) :: fs => (quote k ++ ":" ++ print j) :: printFields fs

end

def indent (n : Nat) : String := String.ofList (List.replicate (2 * n) ' ')

mutual

def printIndented (n : Nat) : Json → String
  | list (j :: js) =>
    "[\n" ++ ",\n".intercalate (indentedItems (n + 1) (j :: js)) ++ "\n" ++ indent n ++ "]"
  | object (f :: fs) =>
    "\x7b\n" ++ ",\n".intercalate (indentedFields (n + 1) (f :: fs)) ++ "\n" ++ indent n ++ "\x7d"
  | j => print j

def indentedItems (n : Nat) : List Json → List String
  | [] => []
  | j :: js => (indent n ++ printIndented n j) :: indentedItems n js

def indentedFields (n : Nat) : List (String × Json) → List String
  | [] => []
  | (k, j) :: fs => (indent n ++ quote k ++ ": " ++ printIndented n j) :: indentedFields n fs

end

def pretty (j : Json) : String := printIndented 0 j

end PortfolioReports.Json
