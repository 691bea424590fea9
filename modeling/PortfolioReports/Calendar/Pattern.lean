import PortfolioReports.Calendar.Moment
import PortfolioReports.Text.Blank

namespace PortfolioReports.Calendar

open Text

inductive Fill where
  | none
  | zero
  | space
deriving DecidableEq

inductive NumberPart where
  | year
  | century
  | yearOfCentury
  | isoYear
  | isoYearOfCentury
  | quarter
  | month
  | day
  | ordinal
  | weekFromSunday
  | weekFromMonday
  | isoWeek
  | weekdayFromSunday
  | weekdayFromMonday
  | hour
  | hourOfHalf
  | minute
  | second
  | nanos
  | timestamp
deriving DecidableEq

inductive NamePart where
  | monthShort
  | monthLong
  | weekdayShort
  | weekdayLong
  | halfLower
  | halfUpper
  | fraction
  | fractionOf (digits : Nat) (point : Bool)
  | zone
deriving DecidableEq

inductive PatternItem where
  | literal (s : String)
  | number (part : NumberPart) (fill : Fill)
  | name (part : NamePart)
deriving DecidableEq

namespace Pattern

def zeroed (p : NumberPart) : PatternItem := .number p .zero
def spaced (p : NumberPart) : PatternItem := .number p .space
def bare (p : NumberPart) : PatternItem := .number p .none

def clockItems : List PatternItem :=
  [zeroed .hour, .literal ":", zeroed .minute, .literal ":", zeroed .second]

def slashedItems : List PatternItem :=
  [zeroed .month, .literal "/", zeroed .day, .literal "/", zeroed .yearOfCentury]

def letterItems? : Char → Option (List PatternItem)
  | 'A' => some [.name .weekdayLong]
  | 'B' => some [.name .monthLong]
  | 'C' => some [zeroed .century]
  | 'D' => some slashedItems
  | 'F' => some [zeroed .year, .literal "-", zeroed .month, .literal "-", zeroed .day]
  | 'G' => some [zeroed .isoYear]
  | 'H' => some [zeroed .hour]
  | 'I' => some [zeroed .hourOfHalf]
  | 'M' => some [zeroed .minute]
  | 'P' => some [.name .halfLower]
  | 'R' => some [zeroed .hour, .literal ":", zeroed .minute]
  | 'S' => some [zeroed .second]
  | 'T' => some clockItems
  | 'U' => some [zeroed .weekFromSunday]
  | 'V' => some [zeroed .isoWeek]
  | 'W' => some [zeroed .weekFromMonday]
  | 'X' => some clockItems
  | 'Y' => some [zeroed .year]
  | 'Z' => some [.name .zone]
  | 'a' => some [.name .weekdayShort]
  | 'b' => some [.name .monthShort]
  | 'c' => some <|
    [.name .weekdayShort, .literal " ", .name .monthShort, .literal " ", spaced .day, .literal " "] ++
    clockItems ++ [.literal " ", zeroed .year]
  | 'd' => some [zeroed .day]
  | 'e' => some [spaced .day]
  | 'f' => some [zeroed .nanos]
  | 'g' => some [zeroed .isoYearOfCentury]
  | 'h' => some [.name .monthShort]
  | 'j' => some [zeroed .ordinal]
  | 'k' => some [spaced .hour]
  | 'l' => some [spaced .hourOfHalf]
  | 'm' => some [zeroed .month]
  | 'n' => some [.literal "\n"]
  | 'p' => some [.name .halfUpper]
  | 'q' => some [bare .quarter]
  | 'r' => some
    [zeroed .hourOfHalf, .literal ":", zeroed .minute, .literal ":", zeroed .second, .literal " ",
     .name .halfUpper]
  | 's' => some [bare .timestamp]
  | 't' => some [.literal "\t"]
  | 'u' => some [bare .weekdayFromMonday]
  | 'v' => some [spaced .day, .literal "-", .name .monthShort, .literal "-", zeroed .year]
  | 'w' => some [bare .weekdayFromSunday]
  | 'x' => some slashedItems
  | 'y' => some [zeroed .yearOfCentury]
  | 'z' => some [.name .zone]
  | '+' => some [.name .zone]
  | '%' => some [.literal "%"]
  | _ => none

def longItem? : List Char → Option (PatternItem × List Char)
  | ':' :: ':' :: ':' :: 'z' :: cs => some (.name .zone, cs)
  | ':' :: ':' :: 'z' :: cs => some (.name .zone, cs)
  | ':' :: 'z' :: cs => some (.name .zone, cs)
  | '#' :: 'z' :: cs => some (.name .zone, cs)
  | '.' :: 'f' :: cs => some (.name .fraction, cs)
  | '.' :: '3' :: 'f' :: cs => some (.name (.fractionOf 3 true), cs)
  | '.' :: '6' :: 'f' :: cs => some (.name (.fractionOf 6 true), cs)
  | '.' :: '9' :: 'f' :: cs => some (.name (.fractionOf 9 true), cs)
  | '3' :: 'f' :: cs => some (.name (.fractionOf 3 false), cs)
  | '6' :: 'f' :: cs => some (.name (.fractionOf 6 false), cs)
  | '9' :: 'f' :: cs => some (.name (.fractionOf 9 false), cs)
  | _ => none

def fillOf? : Char → Option Fill
  | '-' => some .none
  | '0' => some .zero
  | '_' => some .space
  | _ => none

def refilled? (fill : Fill) (c : Char) : Option PatternItem :=
  match letterItems? c with
  | some [.number p _] => some (.number p fill)
  | _ => none

def directive? (cs : List Char) : Option (List PatternItem × List Char) :=
  match longItem? cs with
  | some (i, rest) => some ([i], rest)
  | none =>
    match cs with
    | [] => none
    | c :: rest =>
      match fillOf? c, rest with
      | some fill, d :: rest => (refilled? fill d).map fun i => ([i], rest)
      | some _, [] => none
      | none, _ => (letterItems? c).map fun is => (is, rest)

def scan (fuel : Nat) (cs : List Char) : Option (List PatternItem) :=
  match fuel, cs with
  | _, [] => some []
  | 0, _ => none
  | fuel + 1, '%' :: cs => do
    let (is, cs) ← directive? cs
    let rest ← scan fuel cs
    pure (is ++ rest)
  | fuel + 1, c :: cs => (scan fuel cs).map fun rest => .literal (String.ofList [c]) :: rest

def items? (s : String) : Option (List PatternItem) := scan s.length s.toList

def monthNames : List String :=
  ["January", "February", "March", "April", "May", "June", "July", "August", "September", "October",
   "November", "December"]

def weekdayNames : List String :=
  ["Monday", "Tuesday", "Wednesday", "Thursday", "Friday", "Saturday", "Sunday"]

def nameAt (names : List String) (i : Nat) : String := names.getD i ""

def twoDigits (fill : Fill) (n : Nat) : String :=
  let tens := n / 10
  let lead := if tens = 0 then
      match fill with
      | .none => ""
      | .space => " "
      | .zero => "0"
    else String.ofList [Char.ofNat (48 + tens)]
  lead ++ toString (n % 10)

def wide (width : Nat) (fill : Fill) (n : Int) : String :=
  match fill with
  | .none => toString n
  | .space => padLeft width (toString n) ' '
  | .zero => if n < 0 then "-" ++ zeroPadded (width - 1) n.natAbs else zeroPadded width n.natAbs

def yearFilled (fill : Fill) (y : Int) : String :=
  if 0 ≤ y ∧ y ≤ 9999 then wide 4 fill y
  else
    let sign := if y < 0 then "-" else "+"
    match fill with
    | .none => sign ++ toString y.natAbs
    | .zero => sign ++ zeroPadded 4 y.natAbs
    | .space => padLeft 5 (sign ++ toString y.natAbs) ' '

/-- A quotient or remainder of a year as it is kept in eight bits. -/
def byte (n : Int) : Nat := (n % 256).toNat

def weekFrom (d : Date) (daysSinceStart : Nat) : Nat := (d.ordinal + 6 - daysSinceStart) / 7

def sinceSunday (d : Date) : Nat := (d.weekday + 1) % 7

def dateNumber? (fill : Fill) (d : Date) : NumberPart → Option String
  | .year => some (yearFilled fill d.year)
  | .century => some (twoDigits fill (byte (d.year / 100)))
  | .yearOfCentury => some (twoDigits fill (byte (d.year % 100)))
  | .isoYear => some (yearFilled fill d.isoWeek.1)
  | .isoYearOfCentury => some (twoDigits fill (byte (d.isoWeek.1 % 100)))
  | .quarter => some (toString ((d.month - 1) / 3 + 1))
  | .month => some (twoDigits fill d.month)
  | .day => some (twoDigits fill d.day)
  | .ordinal => some (wide 3 fill d.ordinal)
  | .weekFromSunday => some (twoDigits fill (weekFrom d (sinceSunday d)))
  | .weekFromMonday => some (twoDigits fill (weekFrom d d.weekday))
  | .isoWeek => some (twoDigits fill d.isoWeek.2)
  | .weekdayFromSunday => some (toString (sinceSunday d))
  | .weekdayFromMonday => some (toString (d.weekday + 1))
  | _ => none

def hourOfHalf (t : Clock) : Nat := (t.hour + 11) % 12 + 1

def clockNumber? (fill : Fill) (t : Clock) : NumberPart → Option String
  | .hour => some (twoDigits fill t.hour)
  | .hourOfHalf => some (twoDigits fill (hourOfHalf t))
  | .minute => some (twoDigits fill t.minute)
  | .second => some (twoDigits fill t.second)
  | .nanos => some (wide 9 fill t.fraction)
  | _ => none

def number? (fill : Fill) (d : Date) (t : Option Clock) (p : NumberPart) : Option String :=
  match dateNumber? fill d p with
  | some s => some s
  | none => t.bind fun t =>
    match p with
    | .timestamp => some (wide 9 fill (Moment.mk d t).epochSeconds)
    | p => clockNumber? fill t p

def dateName? (d : Date) : NamePart → Option String
  | .monthShort => some (takeChars 3 (nameAt monthNames (d.month - 1)))
  | .monthLong => some (nameAt monthNames (d.month - 1))
  | .weekdayShort => some (takeChars 3 (nameAt weekdayNames d.weekday))
  | .weekdayLong => some (nameAt weekdayNames d.weekday)
  | _ => none

def clockName? (t : Clock) : NamePart → Option String
  | .halfLower => some (if t.hour < 12 then "am" else "pm")
  | .halfUpper => some (if t.hour < 12 then "AM" else "PM")
  | .fraction => some (fractionText t)
  | .fractionOf n point =>
    some ((if point then "." else "") ++ zeroPadded n (t.fraction / Nat.pow 10 (9 - n)))
  | _ => none

def itemText? (d : Date) (t : Option Clock) : PatternItem → Option String
  | .literal s => some s
  | .number p fill => number? fill d t p
  | .name p => (dateName? d p).orElse fun _ => t.bind fun t => clockName? t p

def write? (pattern : String) (d : Date) (t : Option Clock) : Option String := do
  let items ← items? pattern
  let texts ← items.mapM (itemText? d t)
  pure (String.join texts)

end Pattern

end PortfolioReports.Calendar
