import TimePanel.Cell.Basic
import TimePanel.Schema.Checked

/-! Dates and times as requests give them: in a fixed written form, or as a number of seconds or
milliseconds. -/

namespace TimePanel.Schema

private def digit? (text : List Char) (place : Nat) : Option Nat :=
  text[place]?.bind fun c => if c.isDigit then some (c.toNat - '0'.toNat) else none

private def twoDigits? (text : List Char) (place : Nat) : Option Nat := do
  return 10 * (← digit? text place) + (← digit? text (place + 1))

private def utf8Length (text : List Char) : Nat :=
  text.foldl (fun size c => size + c.utf8Size) 0

-- The date in the first ten characters, or why there is none.
def leadingDate (text : List Char) : Except String Date := do
  let need (place : Nat) (reason : String) : Except String Nat :=
    (digit? text place).elim (.error reason) .ok
  if utf8Length text < 10 then throw "input is too short"
  let century ← need 0 "invalid character in year"
  let century := 10 * century + (← need 1 "invalid character in year")
  let year := 10 * century + (← need 2 "invalid character in year")
  let year := 10 * year + (← need 3 "invalid character in year")
  if text[4]? ≠ some '-' then throw "invalid date separator, expected `-`"
  let month := 10 * (← need 5 "invalid character in month")
  let month := month + (← need 6 "invalid character in month")
  if text[7]? ≠ some '-' then throw "invalid date separator, expected `-`"
  let day := 10 * (← need 8 "invalid character in day")
  let day := day + (← need 9 "invalid character in day")
  if month < 1 ∨ 12 < month then throw "month value is outside expected range of 1-12"
  if day < 1 ∨ Calendar.daysInMonth year month < day then
    throw "day value is outside expected range"
  return ⟨year, month, day⟩

private def fractionOf (text : List Char) : Option (Nat × List Char) :=
  match text with
  | mark :: rest =>
    if mark = '.' ∨ mark = ',' then
      let (digits, left) := rest.span Char.isDigit
      let used := digits.take 6 ++ List.replicate (6 - digits.length) '0'
      if digits.isEmpty then none
      else some (used.foldl (fun n c => 10 * n + (c.toNat - '0'.toNat)) 0, left)
    else some (0, text)
  | [] => some (0, [])

-- `Z`, `±hh:mm`, `±hhmm` or nothing, up to the end.
private def offsetOf? (text : List Char) : Option (Option Int) :=
  match text with
  | [] => some none
  | ['Z'] | ['z'] => some (some 0)
  | sign :: rest => do
    let negative ← if sign = '+' then some false
      else if sign = '-' ∨ sign = '\u2212' then some true else none
    let hours ← twoDigits? rest 0
    let rest := if rest[2]? = some ':' then rest.drop 3 else rest.drop 2
    let minutes ← twoDigits? rest 0
    if rest.length ≠ 2 ∨ 59 < minutes ∨ 23 < hours then none
    else
      let size : Int := hours * 3600 + minutes * 60
      some (some (if negative then -size else size))

-- `HH:MM`, perhaps with seconds, a fraction and an offset, up to the end.
private def timeOf? (text : List Char) : Option (TimeOfDay × Option Int) := do
  let hour ← twoDigits? text 0
  let minute ← twoDigits? text 3
  if text[2]? ≠ some ':' then none
  else
    let rest := text.drop 5
    let (second, micro, rest) ←
      if rest.head? = some ':' then do
        let second ← twoDigits? rest 1
        let (micro, rest) ← fractionOf (rest.drop 3)
        some (second, micro, rest)
      else some (0, 0, rest)
    let time ← TimeOfDay.of? hour minute second micro
    return (time, ← offsetOf? rest)

private def writtenMoment? (text : List Char) : Option DateTime :=
  match leadingDate text, text[10]? with
  | .ok date, some mark =>
    if ['T', 't', ' ', '_'].contains mark then
      (timeOf? (text.drop 11)).map fun (time, offset) => ⟨⟨date, time⟩, offset⟩
    else none
  | _, _ => none

def tooEarly : String := "dates before 1600 are not supported as unix timestamps"
def tooLate : String := "dates after 9999 are not supported as unix timestamps"

-- Counts beyond this many seconds are milliseconds.
def millisFrom : Int := 20000000000

-- The moment a whole number of seconds or milliseconds after the start of 1970, and some
-- microseconds later.
def momentAfter (count : Int) (micros : Nat) : Except String DateTime := do
  let millis := decide (millisFrom < count.natAbs)
  let seconds := if millis then count / 1000 else count
  let micros : Int := micros + (if millis then count % 1000 * 1000 else 0)
  let seconds := seconds + micros / 1000000
  if seconds < -11676096000 then throw tooEarly
  if 253402300799 < seconds then throw tooLate
  match WallTime.ofEpochMicros? (seconds * 1000000 + micros % 1000000) with
  | some wall => return ⟨wall, some 0⟩
  | none => throw tooLate

-- The fraction is always added, so below zero it points the wrong way.
def momentAfterFloat (count : Binary64) : Except String DateTime :=
  match count with
  | .nan => .error "NaN values not permitted"
  | .infinite negative => .error (if negative then tooEarly else tooLate)
  | .finite .. =>
    let value := count.toRat?.getD 0
    let size := if value < 0 then -value else value
    let fraction := (size - size.floor) * 1000000
    momentAfter value.floor (fraction + 1 / 2).floor.toNat

private def plainNumber? (text : List Char) : Option Number :=
  let unsigned := match text with
    | '-' :: rest | '+' :: rest => rest
    | _ => text
  if unsigned.all (fun c => c.isDigit || c = '.') ∧ unsigned.head?.any Char.isDigit then
    Literal.number? text
  else none

-- The moment a text stands for, or why it is none as a date.
def momentOfText (text : String) : Except String DateTime :=
  let chars := text.toList
  match writtenMoment? chars with
  | some moment => .ok moment
  | none =>
    match plainNumber? chars with
    | some (.int n) => momentAfter n 0
    | some (.float x) => momentAfterFloat x
    | none => do
      let date ← leadingDate chars
      if 10 < chars.length then throw "unexpected extra characters at the end of the input"
      if date.isValid then return ⟨⟨date, .midnight⟩, none⟩
      else throw "year 0 is out of range"

private def counted (moment : Except String DateTime) : Checked DateTime :=
  match moment with
  | .ok moment => .valid moment
  | .error reason =>
    .problem "datetime_parsing" ("Input should be a valid datetime, " ++ reason)

-- A date alone stands for its midnight.
def moment : Cell → Checked DateTime
  | .dateTime value => .valid value
  | .date date => .valid ⟨⟨date, .midnight⟩, none⟩
  | .int n => counted (momentAfter n 0)
  | .float x => counted (momentAfterFloat x)
  | .text text =>
    match momentOfText text with
    | .ok moment => .valid moment
    | .error reason => .problem "datetime_from_date_parsing"
        ("Input should be a valid datetime or date, " ++ reason)
  | _ => .problem "datetime_type" "Input should be a valid datetime"

end TimePanel.Schema
