import PortfolioReports.Text.Hex
import PortfolioReports.Text.Width

namespace PortfolioReports.SharedText

open Text

def hexFour (n : Nat) : List Char := (padLeft 4 (hexText n).toUpper '0').toList

def escapeOf (c : Char) : List Char := ['_', 'x'] ++ hexFour c.toNat ++ ['_']

def startsEscape : List Char → Bool
  | '_' :: 'x' :: a :: b :: c :: d :: '_' :: _ => [a, b, c, d].all fun h => (hexDigit? h).isSome
  | _ => false

def isControl (c : Char) : Bool := c.toNat < 0x20 && c != '\t' && c != '\n'

def escape : List Char → List Char
  | [] => []
  | c :: cs =>
    (if startsEscape (c :: cs) then escapeOf '_' else if isControl c then escapeOf c else [c]) ++ escape cs

def runsLead : List Char := "<r>".toList
def runsEnd : List Char := "</r>".toList

def isMarkedUp (cs : List Char) : Bool := runsLead.isPrefixOf cs && runsEnd.isSuffixOf cs

def splitAt? (part : List Char) : List Char → Option (List Char × List Char)
  | [] => none
  | c :: cs =>
    if part.isPrefixOf (c :: cs) then some ([], (c :: cs).drop part.length)
    else (splitAt? part cs).map fun s => (c :: s.1, s.2)

def entities : List (String × Char) := [("amp", '&'), ("lt", '<'), ("gt", '>'), ("quot", '"'), ("apos", '\'')]

def unescape : Nat → List Char → List Char
  | 0, cs => cs
  | _, [] => []
  | fuel + 1, '&' :: cs =>
    match splitAt? [';'] cs with
    | some (name, rest) => match entities.lookup (String.ofList name) with
      | some c => c :: unescape fuel rest
      | none => '&' :: unescape fuel cs
    | none => '&' :: cs
  | fuel + 1, c :: cs => c :: unescape fuel cs

def runTexts : Nat → List Char → List Char
  | 0, _ => []
  | fuel + 1, cs =>
    match splitAt? "<t".toList cs with
    | none => []
    | some (_, '>' :: rest) => match splitAt? "</t>".toList rest with
      | some (text, rest) => unescape text.length text ++ runTexts fuel rest
      | none => []
    | some (_, ' ' :: rest) => match splitAt? ['>'] rest with
      | some (attributes, rest) =>
        if attributes.getLast? = some '/' then runTexts fuel rest
        else match splitAt? "</t>".toList rest with
          | some (text, rest) => unescape text.length text ++ runTexts fuel rest
          | none => []
      | none => []
    | some (_, rest) => runTexts fuel rest

def shown (s : String) : String :=
  let cs := s.toList
  String.ofList (if isMarkedUp cs then runTexts cs.length cs else escape cs)

end PortfolioReports.SharedText
