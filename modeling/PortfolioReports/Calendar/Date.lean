namespace PortfolioReports.Calendar

structure Date where
  days : Int
deriving DecidableEq, Repr

namespace Date

def firstYear : Int := -262143
def lastYear : Int := 262142

def isLeapYear (y : Int) : Bool := y % 4 = 0 ∧ (y % 100 ≠ 0 ∨ y % 400 = 0)

def daysInMonth (y : Int) (m : Nat) : Nat :=
  if m = 2 then (if isLeapYear y then 29 else 28)
  else if m = 4 ∨ m = 6 ∨ m = 9 ∨ m = 11 then 30 else 31

/-- Days from 1970-01-01 to the first of March of the year. -/
def marchDays (y : Int) : Int := 365 * y + y / 4 - y / 100 + y / 400 - 719468

def countDays (y : Int) (m d : Nat) : Int :=
  let y' := if m ≤ 2 then y - 1 else y
  let m' := if m ≤ 2 then m + 9 else m - 3
  marchDays y' + (153 * m' + 2) / 5 + d - 1

def ofCivil? (y : Int) (m d : Nat) : Option Date :=
  if firstYear ≤ y ∧ y ≤ lastYear ∧ 1 ≤ m ∧ m ≤ 12 ∧ 1 ≤ d ∧ d ≤ daysInMonth y m then
    some ⟨countDays y m d⟩
  else none

structure Civil where
  year : Int
  month : Nat
  day : Nat
deriving DecidableEq, Repr

def civil (x : Date) : Civil :=
  let z := x.days + 719468
  let era := z / 146097
  let doe := z % 146097
  let yoe := (doe - doe / 1460 + doe / 36524 - doe / 146096) / 365
  let doy := doe - (365 * yoe + yoe / 4 - yoe / 100)
  let m' := (5 * doy + 2) / 153
  let day := doy - (153 * m' + 2) / 5 + 1
  let month := if m' < 10 then m' + 3 else m' - 9
  let year := yoe + era * 400 + (if month ≤ 2 then 1 else 0)
  ⟨year, month.toNat, day.toNat⟩

def year (x : Date) : Int := x.civil.year
def month (x : Date) : Nat := x.civil.month
def day (x : Date) : Nat := x.civil.day

def addDays? (x : Date) (n : Int) : Option Date :=
  let z : Date := ⟨x.days + n⟩
  if firstYear ≤ z.year ∧ z.year ≤ lastYear then some z else none

def weekday (x : Date) : Nat := ((x.days + 3) % 7).toNat

def ordinal (x : Date) : Nat := (x.days - countDays x.year 1 1).toNat + 1

/-- The Monday of the first week of a year that has a Thursday in it. -/
def isoYearStart (y : Int) : Int :=
  let jan4 : Date := ⟨countDays y 1 4⟩
  jan4.days - jan4.weekday

def isoWeek (x : Date) : Int × Nat :=
  let y := x.year
  let y := if x.days < isoYearStart y then y - 1 else if isoYearStart (y + 1) ≤ x.days then y + 1 else y
  (y, ((x.days - isoYearStart y) / 7).toNat + 1)

end Date

end PortfolioReports.Calendar
