import PortfolioReports.Json.Fault

namespace PortfolioReports.Json

open Text

inductive Mode where
  | read
  | skip
deriving DecidableEq, Repr

def isSpace (c : Char) : Bool := c = ' ' || c = '\n' || c = '\t' || c = '\r'

def skipSpace (cs : List Char) : List Char := cs.dropWhile isSpace

def digitOf (c : Char) : Nat := c.toNat - 48

def hexFour (cs : List Char) : Except ReadError (Nat × List Char) :=
  match (cs.take 4).mapM hexDigit? with
  | some [a, b, c, d] => .ok (((a.val * 16 + b.val) * 16 + c.val) * 16 + d.val, cs.drop 4)
  | _ => if byteCount cs < 4 then faultBefore .endInText [] else .error ⟨.invalidEscape, cs, 4⟩

def unescape? : Char → Option Char
  | '"' => some '"'
  | '\\' => some '\\'
  | '/' => some '/'
  | 'b' => some '\x08'
  | 'f' => some '\x0c'
  | 'n' => some '\n'
  | 'r' => some '\r'
  | 't' => some '\t'
  | _ => none

def unitOf (n : Nat) (cs : List Char) : Except ReadError (Char × List Char) :=
  if 0xD800 ≤ n ∧ n < 0xDC00 then
    match cs with
    | '\\' :: 'u' :: more => do
      let (m, more) ← hexFour more
      if 0xDC00 ≤ m ∧ m < 0xE000 then
        pure (Char.ofNat (0x10000 + (n - 0xD800) * 0x400 + (m - 0xDC00)), more)
      else faultBefore .loneSurrogate more
    | [] | ['\\'] => faultBefore .endInText []
    | '\\' :: cs => faultAt .endOfEscape cs
    | cs => faultAt .endOfEscape cs
  else if 0xDC00 ≤ n ∧ n < 0xE000 then faultBefore .loneSurrogate cs
  else .ok (Char.ofNat n, cs)

/-- The rest of a string after its opening quote. The text is absent if some escape denotes nothing. The
fuel is a list at least as long as what is read, since each step reads a character. -/
def scanText (mode : Mode) (fuel : List Char) (acc : List Char) (whole : Bool) (cs : List Char) :
    Except ReadError (Option String × List Char) :=
  match fuel with
  | [] => faultBefore .endInText cs
  | _ :: fuel =>
    match cs with
    | [] => faultBefore .endInText []
    | '"' :: cs => .ok (if whole then some (String.ofList acc.reverse) else none, cs)
    | '\\' :: 'u' :: cs => do
      let (n, cs) ← hexFour cs
      match unitOf n cs with
      | .ok (c, cs) => scanText mode fuel (c :: acc) whole cs
      | .error e => match mode with
        | .read => .error e
        | .skip => scanText mode fuel acc false cs
    | '\\' :: c :: cs =>
      match unescape? c with
      | some c => scanText mode fuel (c :: acc) whole cs
      | none => faultAt .invalidEscape (c :: cs)
    | ['\\'] => faultBefore .endInText []
    | c :: cs =>
      if c.toNat < 0x20 then match mode with
        | .read => faultAt .controlCharacter (c :: cs)
        | .skip => faultBefore .controlCharacter (c :: cs)
      else scanText mode fuel (c :: acc) whole cs

def scanString (mode : Mode) (cs : List Char) : Except ReadError (Option String × List Char) :=
  scanText mode cs [] true cs

def fillSignificand (sig : Nat) : List Nat → Nat × List Nat
  | [] => (sig, [])
  | d :: ds => if sig * 10 + d < UInt64.size then fillSignificand (sig * 10 + d) ds else (sig, d :: ds)

/-- The float of a significand and an exponent: one product or quotient, after steps of 308 places
where the exponent is very small. Nothing if the result is not finite. -/
def floatOfParts (sig : Nat) (e : Int) : Option Float :=
  go 4 (Float.ofNat sig) e
where
  go : Nat → Float → Int → Option Float
    | 0, f, _ => some f
    | fuel + 1, f, e =>
      if e.natAbs ≤ 308 then
        if 0 ≤ e then
          let g := f * Float.ofScientific 1 false e.natAbs
          if g.isInf then none else some g
        else some (f / Float.ofScientific 1 false e.natAbs)
      else if f == 0 then some f
      else if 0 ≤ e then none
      else go fuel (f / Float.ofScientific 1 false 308) (e + 308)

def numberOf (negative : Bool) (whole : List Nat) (frac : Option (List Nat)) (exp : Option Int) : Json :=
  let n := whole.foldl (fun n d => n * 10 + d) 0
  let signed (f : Float) : Json := float (if negative then -f else f)
  match frac, exp with
  | none, none =>
    if n < UInt64.size then
      if negative then (if n = 0 ∨ UInt64.size / 2 < n then signed (Float.ofNat n) else int (-n)) else int n
    else scaled (fun f => signed f) (fillSignificand 0 whole) [] 0
  | _, _ => scaled (fun f => signed f) (fillSignificand 0 whole) (frac.getD []) (exp.getD 0)
where
  scaled (signed : Float → Json) (filled : Nat × List Nat) (frac : List Nat) (exp : Int) : Json :=
    let (sig, left) := fillSignificand filled.1 frac
    let e := (filled.2.length : Int) - ((frac.length - left.length : Nat) : Int) + exp
    if exp.natAbs < UInt32.size / 2 then
      match floatOfParts sig e with
      | some f => signed f
      | none => unreadable
    else if sig = 0 ∨ exp < 0 then signed 0
    else unreadable

def digitsOf (cs : List Char) : List Nat := (cs.takeWhile Char.isDigit).map digitOf

def afterDigits (cs : List Char) : List Char := cs.dropWhile Char.isDigit

def endInNumber {α : Type} : Mode → Except ReadError α
  | .read => faultBefore .endInValue []
  | .skip => faultBefore .invalidNumber []

structure Exponent where
  value : Int
  excess? : Option (List Char)

def afterExcess? (n : Nat) : List Char → Option (List Char)
  | [] => none
  | c :: cs =>
    if c.isDigit then
      if n * 10 + digitOf c < UInt32.size / 2 then afterExcess? (n * 10 + digitOf c) cs else some cs
    else none

def scanExponent (mode : Mode) (cs : List Char) : Except ReadError (Option Exponent × List Char) :=
  match cs with
  | 'e' :: cs | 'E' :: cs =>
    let (sign, cs) : Int × List Char := match cs with
      | '+' :: cs => (1, cs)
      | '-' :: cs => (-1, cs)
      | cs => (1, cs)
    match cs with
    | [] => endInNumber mode
    | c :: _ =>
      if c.isDigit then
        let n : Nat := (digitsOf cs).foldl (fun n d => n * 10 + d) 0
        .ok (some ⟨sign * (n : Int), afterExcess? 0 cs⟩, afterDigits cs)
      else faultAt .invalidNumber cs
  | cs => .ok (none, cs)

def scanFraction (mode : Mode) (cs : List Char) : Except ReadError (Option (List Nat) × List Char) :=
  match cs with
  | '.' :: cs =>
    match cs with
    | [] => endInNumber mode
    | c :: _ => if c.isDigit then .ok (some (digitsOf cs), afterDigits cs) else faultAt .invalidNumber cs
  | cs => .ok (none, cs)

def scanNumber (mode : Mode) (negative : Bool) (cs : List Char) : Except ReadError (Json × List Char) := do
  let (whole, cs) ← match cs with
    | [] => endInNumber mode
    | '0' :: cs =>
      match cs with
      | c :: _ => if c.isDigit then faultAt .invalidNumber cs else .ok ([0], cs)
      | [] => .ok ([0], cs)
    | c :: rest =>
      if c.isDigit then .ok (digitsOf (c :: rest), afterDigits rest) else faultAt .invalidNumber (c :: rest)
  let (frac, cs) ← scanFraction mode cs
  let (exp, cs) ← scanExponent mode cs
  match mode, numberOf negative whole frac (exp.map Exponent.value) with
  | .read, unreadable => faultBefore .outOfRange ((exp.bind Exponent.excess?).getD cs)
  | _, j => pure (j, cs)

def scanWord (j : Json) : List Char → List Char → Except ReadError (Json × List Char)
  | [], cs => .ok (j, cs)
  | _ :: _, [] => faultBefore .endInValue []
  | w :: ws, c :: cs => if w = c then scanWord j ws cs else faultAt .expectedIdent (c :: cs)

def scanScalar (mode : Mode) (cs : List Char) : Except ReadError (Json × List Char) :=
  match cs with
  | [] => faultBefore .endInValue []
  | 'n' :: cs => scanWord null ['u', 'l', 'l'] cs
  | 't' :: cs => scanWord (bool true) ['r', 'u', 'e'] cs
  | 'f' :: cs => scanWord (bool false) ['a', 'l', 's', 'e'] cs
  | '"' :: cs => do
    let (s, cs) ← scanString mode cs
    pure (match s with | some s => text s | none => unreadable, cs)
  | '-' :: cs => scanNumber mode true cs
  | c :: cs => if c.isDigit then scanNumber mode false (c :: cs) else faultAt .expectedValue (c :: cs)

inductive Next where
  | more (cs : List Char)
  | done (cs : List Char)

def nextItem (mode : Mode) (first : Bool) (cs : List Char) : Except ReadError Next :=
  match skipSpace cs with
  | [] => faultBefore .endInList []
  | ']' :: cs => .ok (.done cs)
  | c :: cs =>
    if first then .ok (.more (c :: cs))
    else if c = ',' then
      match mode, skipSpace cs with
      | .read, [] => faultBefore .endInValue []
      | .read, ']' :: cs => faultAt .trailingComma (']' :: cs)
      | _, cs => .ok (.more cs)
    else faultAt .expectedListEnd (c :: cs)

def nextKey (mode : Mode) (first : Bool) (cs : List Char) : Except ReadError Next :=
  match skipSpace cs with
  | [] => faultBefore .endInObject []
  | '\x7d' :: cs => .ok (.done cs)
  | c :: cs =>
    if first then
      if c = '"' then .ok (.more cs) else faultAt .keyNotText (c :: cs)
    else if c = ',' then
      match mode, skipSpace cs with
      | _, '"' :: cs => .ok (.more cs)
      | .read, [] => faultBefore .endInValue []
      | .skip, [] => faultBefore .endInObject []
      | .read, '\x7d' :: cs => faultAt .trailingComma ('\x7d' :: cs)
      | _, cs => faultAt .keyNotText cs
    else faultAt .expectedObjectEnd (c :: cs)

def scanColon (cs : List Char) : Except ReadError (List Char) :=
  match skipSpace cs with
  | [] => faultBefore .endInObject []
  | ':' :: cs => .ok cs
  | cs => faultAt .expectedColon cs

def scanEnd (cs : List Char) : Except ReadError Unit :=
  match skipSpace cs with
  | [] => .ok ()
  | cs => faultAt .trailingCharacters cs

end PortfolioReports.Json
