/-!
The proleptic Gregorian calendar. Days are numbered from 1970-01-01, which is day zero. A year is
counted from March while converting, so that the leap day ends it; 400 years have 146097 days.
-/

namespace SqlDialects

structure Date where
  year : Int
  month : Nat
  day : Nat
deriving DecidableEq, Repr

namespace Date

/-- Days from the first of March of year zero to day zero. -/
def epochShift : Int := 719468

def daysPerCycle : Int := 146097

/-- The year of the cycle in which a day of the cycle lies; every year begins in March. -/
def cycleYear (cycleDay : Nat) : Nat :=
  (cycleDay - cycleDay / 1460 + cycleDay / 36524 - cycleDay / 146096) / 365

def daysBeforeYear (cycleYear : Nat) : Nat :=
  365 * cycleYear + cycleYear / 4 - cycleYear / 100

def daysBeforeMonth (marchMonth : Nat) : Nat :=
  (153 * marchMonth + 2) / 5

def ofDayNumber (dayNumber : Int) : Date :=
  let shifted := dayNumber + epochShift
  let cycle := shifted / daysPerCycle
  let cycleDay := (shifted % daysPerCycle).toNat
  let year := cycleYear cycleDay
  let yearDay := cycleDay - daysBeforeYear year
  let marchMonth := (5 * yearDay + 2) / 153
  let month := if marchMonth < 10 then marchMonth + 3 else marchMonth - 9
  { year := cycle * 400 + year + if month ≤ 2 then 1 else 0
    month := month
    day := yearDay - daysBeforeMonth marchMonth + 1 }

def dayNumber (date : Date) : Int :=
  let marchYear := date.year - if date.month ≤ 2 then 1 else 0
  let year := (marchYear % 400).toNat
  let marchMonth := if date.month ≤ 2 then date.month + 9 else date.month - 3
  marchYear / 400 * daysPerCycle + daysBeforeYear year + daysBeforeMonth marchMonth + date.day
    - 1 - epochShift

end Date

namespace Calendar

/-- Days since Sunday; day zero is a Thursday. -/
def weekday (dayNumber : Int) : Nat :=
  ((dayNumber + 4) % 7).toNat

def weekdayFromMonday (dayNumber : Int) : Nat :=
  ((dayNumber + 3) % 7).toNat

/-- The day of its year, counted from one. -/
def yearDay (dayNumber : Int) : Nat :=
  (dayNumber - (Date.dayNumber ⟨(Date.ofDayNumber dayNumber).year, 1, 1⟩) + 1).toNat

/-- A week belongs to the year that holds its Thursday. -/
def weekThursday (dayNumber : Int) : Int :=
  dayNumber - weekdayFromMonday dayNumber + 3

def weekYear (dayNumber : Int) : Int :=
  (Date.ofDayNumber (weekThursday dayNumber)).year

def week (dayNumber : Int) : Nat :=
  (yearDay (weekThursday dayNumber) - 1) / 7 + 1

def monthNames : List String :=
  ["January", "February", "March", "April", "May", "June", "July", "August", "September",
    "October", "November", "December"]

def weekdayNames : List String :=
  ["Sunday", "Monday", "Tuesday", "Wednesday", "Thursday", "Friday", "Saturday"]

end Calendar

end SqlDialects
