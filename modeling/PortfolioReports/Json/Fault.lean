import PortfolioReports.Json.Printer
import PortfolioReports.Text.Quoted
import PortfolioReports.Text.Width

namespace PortfolioReports.Json

open Text

inductive Found where
  | null
  | bool (b : Bool)
  | int (n : Int)
  | float (x : Float)
  | text (s : String)
  | list
  | object

def Found.of : Json → Found
  | .null | .unreadable => null
  | .bool b => bool b
  | .int n => int n
  | .float x => float x
  | .text s => text s
  | .list _ => list
  | .object _ => object

def Found.phrase : Found → String
  | null => "null"
  | bool b => s!"boolean \x60{b}\x60"
  | int n => s!"integer \x60{n}\x60"
  | float x => "floating point \x60" ++ numberLayout.render x ++ "\x60"
  | text s => "string " ++ quoted s
  | list => "sequence"
  | object => "map"

inductive ReadFault where
  | endInList
  | endInObject
  | endInText
  | endInValue
  | expectedColon
  | expectedListEnd
  | expectedObjectEnd
  | expectedIdent
  | expectedValue
  | invalidEscape
  | invalidNumber
  | outOfRange
  | keyNotText
  | controlCharacter
  | loneSurrogate
  | endOfEscape
  | trailingComma
  | trailingCharacters
  | tooDeep
  | wrongType (found : Found) (expected : String)
  | wrongValue (n : Int) (expected : String)
  | unknownWord (word : String) (known : List String)
  | missingField (name : String)
  | repeatedField (name : String)
  | tooFewItems (found : Nat) (title : String) (expected : Nat)

def alternatives : List String → String
  | [a] => "\x60" ++ a ++ "\x60"
  | [a, b] => "\x60" ++ a ++ "\x60 or \x60" ++ b ++ "\x60"
  | words => "one of " ++ ", ".intercalate (words.map fun w => "\x60" ++ w ++ "\x60")

def ReadFault.message : ReadFault → String
  | .endInList => "EOF while parsing a list"
  | .endInObject => "EOF while parsing an object"
  | .endInText => "EOF while parsing a string"
  | .endInValue => "EOF while parsing a value"
  | .expectedColon => "expected `:`"
  | .expectedListEnd => "expected `,` or `]`"
  | .expectedObjectEnd => "expected `,` or `\x7d`"
  | .expectedIdent => "expected ident"
  | .expectedValue => "expected value"
  | .invalidEscape => "invalid escape"
  | .invalidNumber => "invalid number"
  | .outOfRange => "number out of range"
  | .keyNotText => "key must be a string"
  | .controlCharacter => "control character (\\u0000-\\u001F) found while parsing a string"
  | .loneSurrogate => "lone leading surrogate in hex escape"
  | .endOfEscape => "unexpected end of hex escape"
  | .trailingComma => "trailing comma"
  | .trailingCharacters => "trailing characters"
  | .tooDeep => "recursion limit exceeded"
  | .wrongType found expected => s!"invalid type: {found.phrase}, expected {expected}"
  | .wrongValue n expected => s!"invalid value: integer \x60{n}\x60, expected {expected}"
  | .unknownWord word known => s!"unknown variant \x60{word}\x60, expected {alternatives known}"
  | .missingField name => s!"missing field \x60{name}\x60"
  | .repeatedField name => s!"duplicate field \x60{name}\x60"
  | .tooFewItems n title expected =>
    s!"invalid length {n}, expected struct {title} with {expected} element" ++ (if expected = 1 then "" else "s")

structure ReadError where
  fault : ReadFault
  rest : List Char
  taken : Nat

def faultBefore {α : Type} (fault : ReadFault) (cs : List Char) : Except ReadError α :=
  .error ⟨fault, cs, 0⟩

def faultAt {α : Type} (fault : ReadFault) (cs : List Char) : Except ReadError α :=
  .error ⟨fault, cs, 1⟩

def ReadError.describe (e : ReadError) (s : String) : String :=
  let past := s.utf8ByteSize - byteCount e.rest + e.taken
  let before := s.toUTF8.toList.take past
  let line := before.count 10 + 1
  let column := (before.reverse.takeWhile (· ≠ 10)).length
  s!"{e.fault.message} at line {line} column {column}"

end PortfolioReports.Json
