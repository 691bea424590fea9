import PortfolioReports.Calendar.Moment
import PortfolioReports.Fault

namespace PortfolioReports

open Calendar Text

structure Serial where
  date : Date.Civil
  seconds : Nat
deriving DecidableEq, Repr

namespace Serial

def epoch : Int := Date.countDays 1899 12 31

def epochDate : Date.Civil := ⟨1899, 12, 31⟩

/-- Spreadsheets count this day, which was not. -/
def gap : Date.Civil := ⟨1900, 2, 29⟩

def holds (c : Date.Civil) : Bool :=
  c == epochDate || c == gap ||
    (1900 ≤ c.year && c.year ≤ 9999 && (Date.ofCivil? c.year c.month c.day).isSome)

def yearWord (y : Int) : UInt16 := UInt16.ofNat (y % 65536).toNat

def ofMoment (m : Moment) : Except SheetFault Serial :=
  let c := m.date.civil
  let held : Date.Civil := { c with year := (yearWord c.year).toNat }
  if holds held then .ok ⟨held, m.clock.seconds⟩ else .error (.year held.year)

def days (s : Serial) : Nat :=
  let passed := (Date.countDays s.date.year s.date.month s.date.day - epoch).toNat
  if s.date.year < 1900 ∨ (s.date.year = 1900 ∧ s.date.month ≤ 2) then passed else passed + 1

def toFloat (s : Serial) : Float := s.days.toFloat + s.seconds.toFloat / 86400.0

def toText (s : Serial) : String :=
  yearText s.date.year ++ "-" ++ zeroPadded 2 s.date.month ++ "-" ++ zeroPadded 2 s.date.day ++ "T" ++
    zeroPadded 2 (s.seconds / 3600) ++ ":" ++ zeroPadded 2 (s.seconds / 60 % 60) ++ ":" ++
    zeroPadded 2 (s.seconds % 60) ++ "Z"

end Serial

end PortfolioReports
