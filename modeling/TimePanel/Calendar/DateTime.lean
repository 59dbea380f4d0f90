import TimePanel.Calendar.Date
import TimePanel.Calendar.Clock
import TimePanel.Fault

/-! Readings of calendar and clock, with or without an offset from universal time, and their
written form. -/

namespace TimePanel

-- What a calendar and a clock on the wall show.
structure WallTime where
  date : Date
  time : TimeOfDay
deriving DecidableEq, Repr, Inhabited

-- A wall time, with the offset of its clock from universal time in seconds if that is known.
structure DateTime where
  wall : WallTime
  offset : Option Int
deriving DecidableEq, Repr, Inhabited

namespace WallTime

-- Microseconds from the start of 1970 on the same clock.
def epochMicros (wall : WallTime) : Int :=
  wall.date.epochDay * TimeOfDay.microsPerDay + wall.time.micros

-- Whole seconds from the start of 1970 on the same clock.
def epochSeconds (wall : WallTime) : Int := wall.epochMicros / 1000000

def ofEpochMicros? (micros : Int) : Option WallTime :=
  (Date.ofEpochDay? (micros / TimeOfDay.microsPerDay)).map fun date =>
    ⟨date, .ofMicros (micros % TimeOfDay.microsPerDay).toNat⟩

-- The wall time a number of days later, or earlier if it is negative.
def addDays (wall : WallTime) (days : Int) : Except Fault WallTime :=
  match Date.ofEpochDay? (wall.date.epochDay + days) with
  | some date => .ok { wall with date }
  | none => .error .dateOutOfRange

end WallTime

namespace Calendar

-- A number with leading zeros up to the given width.
def padded (width n : Nat) : String :=
  let digits := Nat.toDigits 10 n
  String.ofList (List.replicate (width - digits.length) '0' ++ digits)

def dateText (date : Date) : String :=
  padded 4 date.year ++ "-" ++ padded 2 date.month ++ "-" ++ padded 2 date.day

def secondsText (time : TimeOfDay) : String :=
  padded 2 time.hour ++ ":" ++ padded 2 time.minute ++ ":" ++ padded 2 time.second

-- The fraction is written only if it is not zero, and then with six digits.
def timeText (time : TimeOfDay) : String :=
  secondsText time ++ (if time.micro = 0 then "" else "." ++ padded 6 time.micro)

-- Seconds of an offset are written only if they are not zero.
def offsetText (offset : Int) : String :=
  let size := offset.natAbs
  (if offset < 0 then "-" else "+") ++ padded 2 (size / 3600) ++ ":" ++
    padded 2 (size / 60 % 60) ++
    (if size % 60 = 0 then "" else ":" ++ padded 2 (size % 60))

end Calendar

open Calendar

def WallTime.textWith (separator : String) (wall : WallTime) : String :=
  dateText wall.date ++ separator ++ timeText wall.time

-- The text with the given mark between date and time.
def DateTime.textWith (separator : String) (value : DateTime) : String :=
  value.wall.textWith separator ++ value.offset.elim "" offsetText

def DateTime.text (value : DateTime) : String := value.textWith "T"

-- Date and time to the second for a comparison with stored text; years are not padded.
def WallTime.literal (wall : WallTime) : String :=
  toString wall.date.year ++ "-" ++ padded 2 wall.date.month ++ "-" ++ padded 2 wall.date.day ++
    " " ++ secondsText wall.time

end TimePanel
