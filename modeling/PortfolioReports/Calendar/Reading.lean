import PortfolioReports.Calendar.Moment
import PortfolioReports.Text.Blank

namespace PortfolioReports.Calendar

open Text

inductive ReadingFault where
  | outOfRange
  | impossible
  | invalid
  | tooShort
  | tooLong
deriving DecidableEq, Repr

def ReadingFault.message : ReadingFault → String
  | .outOfRange => "input is out of range"
  | .impossible => "no possible date and time matching input"
  | .invalid => "input contains invalid characters"
  | .tooShort => "premature end of input"
  | .tooLong => "trailing input"

abbrev Reader (α : Type) := StateT (List Char) (Except ReadingFault) α

namespace Reader

def digitValue (c : Char) : Nat := c.toNat - 48

def digits (width : Option Nat) : Reader Nat := fun cs =>
  match cs with
  | [] => .error .tooShort
  | c :: _ =>
    if c.isDigit then
      let all := cs.takeWhile Char.isDigit
      let ds := match width with
        | some w => all.take w
        | none => all
      let n := ds.foldl (fun n d => n * 10 + digitValue d) 0
      if n < UInt64.size / 2 then .ok (n, cs.drop ds.length) else .error .outOfRange
    else .error .invalid

def skipBlanks : Reader Unit := modify trimLeft

def number (width : Nat) : Reader Nat := do
  skipBlanks
  digits (some width)

def year : Reader Int := do
  skipBlanks
  let y : Int ← do
    match ← get with
    | '-' :: cs =>
      set cs
      let n ← digits none
      pure (-(n : Int))
    | '+' :: cs =>
      set cs
      let n ← digits none
      pure (n : Int)
    | _ =>
      let n ← digits (some 4)
      pure (n : Int)
  if -2147483648 ≤ y ∧ y < 2147483648 then pure y else throw .outOfRange

def numberIn (lo hi : Nat) : Reader Nat := do
  let n ← number 2
  if lo ≤ n ∧ n ≤ hi then pure n else throw .outOfRange

def literal (c : Char) : Reader Unit := do
  match ← get with
  | [] => throw .tooShort
  | d :: cs => if d = c then set cs else throw .invalid

def fraction : Reader Nat := do
  match ← get with
  | '.' :: cs =>
    match cs with
    | [] => throw .tooShort
    | c :: _ =>
      if c.isDigit then
        let ds := (cs.takeWhile Char.isDigit).take 9
        set (cs.dropWhile Char.isDigit)
        pure ((ds.foldl (fun n d => n * 10 + digitValue d) 0) * Nat.pow 10 (9 - ds.length))
      else throw .invalid
  | _ => pure 0

def dateNumbers : Reader (Int × Nat × Nat) := do
  let y ← year
  skipBlanks
  literal '-'
  let m ← numberIn 1 12
  skipBlanks
  literal '-'
  let d ← numberIn 1 31
  pure (y, m, d)

def clockNumbers : Reader (Nat × Nat × Nat × Nat) := do
  let h ← numberIn 0 23
  skipBlanks
  literal ':'
  let m ← numberIn 0 59
  skipBlanks
  literal ':'
  let s ← numberIn 0 60
  let n ← fraction
  skipBlanks
  pure (h, m, s, n)

def orOutOfRange {α : Type} : Option α → Reader α
  | some a => pure a
  | none => throw .outOfRange

def dateOf (n : Int × Nat × Nat) : Reader Date := orOutOfRange (Date.ofCivil? n.1 n.2.1 n.2.2)

def clockOf (n : Nat × Nat × Nat × Nat) : Reader Clock :=
  orOutOfRange (Clock.ofReading? n.1 n.2.1 n.2.2.1 n.2.2.2)

def finish : Reader Unit := do
  unless (← get).isEmpty do throw .tooLong

def twoDigits : Reader Nat := do
  match ← get with
  | a :: b :: cs =>
    if a.isDigit && b.isDigit then
      set cs
      pure (digitValue a * 10 + digitValue b)
    else throw .invalid
  | [c] => if c.utf8Size < 2 then throw .tooShort else throw .invalid
  | [] => throw .tooShort

def offset : Reader Int := do
  match ← get with
  | 'Z' :: cs | 'z' :: cs => set cs; pure 0
  | u :: t :: c :: cs =>
    if [u, t, c].map Char.toUpper = ['U', 'T', 'C'] then set cs; pure 0
    else signed
  | _ => signed
where
  signed : Reader Int := do
    let sign : Int ← do
      match ← get with
      | [] => throw .tooShort
      | '+' :: cs => set cs; pure 1
      | '-' :: cs | '\u2212' :: cs => set cs; pure (-1)
      | _ => throw .invalid
    let hours ← twoDigits
    modify (List.dropWhile fun c => c = ':' || isBlank c)
    let minutes ← twoDigits
    if minutes < 60 then pure (sign * ((hours * 3600 + minutes * 60 : Nat) : Int))
    else throw .outOfRange

end Reader

open Reader

def Reader.on {α : Type} (r : Reader α) (s : String) : Except ReadingFault α :=
  (r.run s.toList).map Prod.fst

def readDate (s : String) : Except ReadingFault Date := Reader.on (do
  let n ← dateNumbers
  skipBlanks
  finish
  dateOf n) s

def readLocal (s : String) : Except ReadingFault Moment := Reader.on (do
  let n ← dateNumbers
  skipBlanks
  literal 'T'
  let t ← clockNumbers
  finish
  let d ← dateOf n
  let c ← clockOf t
  pure ⟨d, c⟩) s

def toUtc (m : Moment) (offset : Int) : Except ReadingFault Moment :=
  if offset.natAbs < 86400 then
    match m.addSeconds? (-offset) with
    | some u => .ok u
    | none => .error .impossible
  else .error .outOfRange

namespace Reader

def digitsExactly : Nat → Nat → Reader Nat
  | 0, n => pure n
  | k + 1, n => do
    match ← get with
    | [] => throw .tooShort
    | c :: cs =>
      if c.isDigit then
        set cs
        digitsExactly k (n * 10 + digitValue c)
      else throw .invalid

def stampOffset : Reader Int := do
  match ← get with
  | 'Z' :: cs | 'z' :: cs => set cs; pure 0
  | _ =>
    let sign : Int ← do
      match ← get with
      | [] => throw .tooShort
      | '+' :: cs => set cs; pure 1
      | '-' :: cs | '\u2212' :: cs => set cs; pure (-1)
      | _ => throw .invalid
    let hours ← twoDigits
    literal ':'
    let minutes ← twoDigits
    if minutes < 60 then pure (sign * ((hours * 3600 + minutes * 60 : Nat) : Int))
    else throw .outOfRange

def stampLength : Nat := 19

def stamp : Reader (Moment × Int) := do
  let y ← digitsExactly 4 0
  literal '-'
  let m ← digitsExactly 2 0
  literal '-'
  let d ← digitsExactly 2 0
  let date ← orOutOfRange (Date.ofCivil? y m d)
  match ← get with
  | 'T' :: cs | 't' :: cs | ' ' :: cs => set cs
  | _ => throw .invalid
  let h ← digitsExactly 2 0
  literal ':'
  let min ← digitsExactly 2 0
  literal ':'
  let s ← digitsExactly 2 0
  let n ← fraction
  let clock ← orOutOfRange (Clock.ofReading? h min s n)
  let off ← stampOffset
  finish
  pure (⟨date, clock⟩, off)

end Reader

/-- A moment as it is stored: each number has its full width, and nothing stands between. -/
def readStamp (s : String) : Except ReadingFault Moment :=
  if s.utf8ByteSize < Reader.stampLength then .error .tooShort
  else do
    let (m, off) ← Reader.on Reader.stamp s
    toUtc m off

def readUtc (s : String) : Except ReadingFault Moment := do
  let (m, off) ← Reader.on (do
    let n ← dateNumbers
    match ← get with
    | 'T' :: cs | 't' :: cs | ' ' :: cs => set cs
    | [] => throw .tooShort
    | _ => throw .invalid
    let t ← clockNumbers
    let off ← offset
    skipBlanks
    finish
    let d ← dateOf n
    let c ← clockOf t
    pure ((⟨d, c⟩ : Moment), off)) s
  toUtc m off

end PortfolioReports.Calendar
