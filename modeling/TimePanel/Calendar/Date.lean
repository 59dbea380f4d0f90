/-! Days of the Gregorian calendar from the year 1 to the year 9999. -/

namespace TimePanel

structure Date where
  year : Nat
  month : Nat
  day : Nat
deriving DecidableEq, Repr, Inhabited

namespace Calendar

def isLeapYear (year : Nat) : Bool :=
  year % 4 = 0 && (year % 100 ≠ 0 || year % 400 = 0)

def monthLengths (year : Nat) : List Nat :=
  [31, if isLeapYear year then 29 else 28, 31, 30, 31, 30, 31, 31, 30, 31, 30, 31]

def daysInMonth (year month : Nat) : Nat := (monthLengths year)[month - 1]?.getD 0

-- Days from the start of the calendar to the first of January.
def daysBeforeYear (year : Nat) : Nat :=
  let past := year - 1
  past * 365 + past / 4 - past / 100 + past / 400

def daysBeforeMonth (year month : Nat) : Nat :=
  ((monthLengths year).take (month - 1)).foldl (· + ·) 0

-- The month and the day of the month, counted from 0, that a day lies in when the months from
-- `month` on have the given lengths.
def locate (month : Nat) (day : Nat) : List Nat → Nat × Nat
  | [] => (month, day)
  | length :: rest =>
    if day < length then (month, day) else locate (month + 1) (day - length) rest

def firstYear : Nat := 1
def lastYear : Nat := 9999

-- The day number of the last day of the calendar.
def lastOrdinal : Nat := 3652059

-- The day number of 1970-01-01.
def epochOrdinal : Int := 719163

end Calendar

namespace Date

open Calendar

def isValid (date : Date) : Bool :=
  firstYear ≤ date.year && date.year ≤ lastYear && 1 ≤ date.month && date.month ≤ 12 &&
    1 ≤ date.day && date.day ≤ daysInMonth date.year date.month

def of? (year month day : Nat) : Option Date :=
  let date : Date := ⟨year, month, day⟩
  if date.isValid then some date else none

-- The day number, where the first of January of the year 1 has number 1.
def ordinal (date : Date) : Nat :=
  daysBeforeYear date.year + daysBeforeMonth date.year date.month + date.day

-- Years are counted off in cycles of 400, 100, 4 and 1 years. The last day of a cycle whose last
-- part is longer than the others would start a part of its own, and belongs to the one before.
def ofOrdinal (ordinal : Nat) : Date :=
  let day := ordinal - 1
  let fourCenturies := day / 146097
  let day := day % 146097
  let centuries := min 3 (day / 36524)
  let day := day - centuries * 36524
  let fourYears := day / 1461
  let day := day % 1461
  let years := min 3 (day / 365)
  let day := day - years * 365
  let year := fourCenturies * 400 + centuries * 100 + fourYears * 4 + years + 1
  let (month, day) := locate 1 day (monthLengths year)
  ⟨year, month, day + 1⟩

-- Days since 1970-01-01.
def epochDay (date : Date) : Int := date.ordinal - epochOrdinal

def ofEpochDay? (day : Int) : Option Date :=
  let ordinal := day + epochOrdinal
  if 1 ≤ ordinal ∧ ordinal ≤ lastOrdinal then some (ofOrdinal ordinal.toNat) else none

-- The day of the week, where Monday is 0.
def weekday (date : Date) : Nat := (date.ordinal + 6) % 7

end Date

end TimePanel
