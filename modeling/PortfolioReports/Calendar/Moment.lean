import PortfolioReports.Calendar.Date
import PortfolioReports.Text.Width

/-!
A leap second is written as second 59 with a fraction of one second or more, so it sorts after second 59 and before
the next minute.
-/

namespace PortfolioReports.Calendar

open Text

/-- A time of day: whole seconds since midnight and nanoseconds, the latter from 1_000_000_000 on in
a leap second. -/
structure Clock where
  seconds : Nat
  nanos : Nat
deriving DecidableEq, Repr

namespace Clock

def hour (t : Clock) : Nat := t.seconds / 3600
def minute (t : Clock) : Nat := t.seconds / 60 % 60

def second (t : Clock) : Nat := t.seconds % 60 + t.nanos / 1000000000

def fraction (t : Clock) : Nat := t.nanos % 1000000000

def midnight : Clock := ⟨0, 0⟩

def ofReading? (h m s nanos : Nat) : Option Clock :=
  if h < 24 ∧ m < 60 ∧ s ≤ 60 ∧ nanos < 1000000000 then
    if s = 60 then some ⟨h * 3600 + m * 60 + 59, nanos + 1000000000⟩
    else some ⟨h * 3600 + m * 60 + s, nanos⟩
  else none

end Clock

structure Moment where
  date : Date
  clock : Clock
deriving DecidableEq, Repr

namespace Moment

def key (m : Moment) : Int × Nat := (m.date.days * 86400 + m.clock.seconds, m.clock.nanos)

def le (a b : Moment) : Bool :=
  a.key.1 < b.key.1 || (a.key.1 == b.key.1 && a.key.2 ≤ b.key.2)

def epochSeconds (m : Moment) : Int := m.key.1

def addSeconds? (m : Moment) (n : Int) : Option Moment :=
  let total := (m.clock.seconds : Int) + n
  (m.date.addDays? (total / 86400)).map fun d => ⟨d, ⟨(total % 86400).toNat, m.clock.nanos⟩⟩

def dayBefore (m : Moment) : Moment :=
  if m.clock.nanos < 1000000000 then ⟨⟨m.date.days - 1⟩, m.clock⟩
  else
    let total := m.clock.seconds + 1
    ⟨⟨m.date.days - 1 + total / 86400⟩, ⟨total % 86400, m.clock.nanos - 1000000000⟩⟩

end Moment

def yearText (y : Int) : String :=
  if 0 ≤ y ∧ y ≤ 9999 then zeroPadded 4 y.toNat
  else (if y < 0 then "-" else "+") ++ zeroPadded 4 y.natAbs

def dateText (d : Date) : String :=
  let c := d.civil
  s!"{yearText c.year}-{zeroPadded 2 c.month}-{zeroPadded 2 c.day}"

def clockText (t : Clock) : String :=
  s!"{zeroPadded 2 t.hour}:{zeroPadded 2 t.minute}:{zeroPadded 2 t.second}"

/-- The fraction with 0, 3, 6 or 9 digits, as few as lose nothing. -/
def fractionText (t : Clock) : String :=
  let n := t.fraction
  if n = 0 then ""
  else if n % 1000000 = 0 then "." ++ zeroPadded 3 (n / 1000000)
  else if n % 1000 = 0 then "." ++ zeroPadded 6 (n / 1000)
  else "." ++ zeroPadded 9 n

def momentText (separator : String) (m : Moment) : String :=
  dateText m.date ++ separator ++ clockText m.clock

def utcText (m : Moment) : String :=
  momentText "T" m ++ fractionText m.clock ++ "Z"

end PortfolioReports.Calendar
