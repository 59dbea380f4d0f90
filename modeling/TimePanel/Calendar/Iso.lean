import TimePanel.Calendar.DateTime
import TimePanel.Number.Literal

/-! Dates and times in the international format: calendar dates, week dates and days of the year,
with or without a time and an offset. -/

namespace TimePanel.Iso

def isPlainSpace (c : Char) : Bool := c = ' ' || ('\t' ≤ c && c ≤ '\r')

-- A whole number in a field, which may be padded with blanks or signed.
def fieldNumber (field : List Char) : Except Fault Int :=
  let trimmed :=
    ((field.dropWhile isPlainSpace).reverse.dropWhile isPlainSpace).reverse
  (Literal.integer? trimmed).elim (.error .unreadableDate) .ok

-- Year, month and day as written, and the text after them.
structure DateFields where
  year : Int
  month : Int
  day : Int
  rest : List Char

-- `YYYY`, `YYYY-MM`, `YYYY-MM-DD` or `YYYYMMDD`.
def calendarDate (text : List Char) : Except Fault DateFields := do
  if text.length < 4 then throw .unreadableDate
  let year ← fieldNumber (text.take 4)
  match text.drop 4 with
  | [] => return ⟨year, 1, 1, []⟩
  | '-' :: rest =>
    if rest.length < 2 then throw .unreadableDate
    let month ← fieldNumber (rest.take 2)
    match rest.drop 2 with
    | [] => return ⟨year, month, 1, []⟩
    | '-' :: rest =>
      if rest.length < 2 then throw .unreadableDate
      return ⟨year, month, ← fieldNumber (rest.take 2), rest.drop 2⟩
    | _ => throw .unreadableDate
  | rest =>
    let month ← fieldNumber (rest.take 2)
    let rest := rest.drop 2
    if rest.length < 2 then throw .unreadableDate
    return ⟨year, month, ← fieldNumber (rest.take 2), rest.drop 2⟩

def dateFields (date : Date) (rest : List Char) : DateFields :=
  ⟨date.year, date.month, date.day, rest⟩

def yearStart (year : Int) : Except Fault Date :=
  (Date.of? year.toNat 1 1).elim (.error .unreadableDate) .ok

def dayAfter (date : Date) (days : Int) : Except Fault Date :=
  (Date.ofEpochDay? (date.epochDay + days)).elim (.error .dateOutOfRange) .ok

-- `YYYYWww`, `YYYYWwwD` and the same with dashes. The first week holds the fourth of January.
def weekDate (year : Int) (dashed : Bool) (text : List Char) : Except Fault DateFields := do
  let week ← fieldNumber (text.take 2)
  let rest := text.drop 2
  let (day, rest) ← if rest.isEmpty then pure ((1 : Int), rest) else do
    if (rest.head? = some '-') ≠ dashed then throw .unreadableDate
    let rest := if dashed then rest.drop 1 else rest
    pure (← fieldNumber (rest.take 1), rest.drop 1)
  if week < 1 ∨ 53 < week ∨ day < 1 ∨ 7 < day then throw .unreadableDate
  let fourth ← dayAfter (← yearStart year) 3
  let date ← dayAfter fourth ((week - 1) * 7 + (day - 1) - fourth.weekday)
  return dateFields date rest

-- `YYYYDDD` or `YYYY-DDD`, where the first of January is day 1.
def dayOfYear (year : Int) (text : List Char) : Except Fault DateFields := do
  if text.length < 3 then throw .unreadableDate
  let day ← fieldNumber (text.take 3)
  let first ← yearStart year
  if day < 1 ∨ (if Calendar.isLeapYear first.year then 366 else 365) < day then
    throw .unreadableDate
  return dateFields (← dayAfter first (day - 1)) (text.drop 3)

def otherDate (text : List Char) : Except Fault DateFields := do
  if text.length < 4 then throw .unreadableDate
  let year ← fieldNumber (text.take 4)
  let dashed := text[4]? = some '-'
  let rest := text.drop (if dashed then 5 else 4)
  match rest with
  | 'W' :: rest => weekDate year dashed rest
  | _ => dayOfYear year rest

def dateOf (text : List Char) : Except Fault DateFields :=
  match calendarDate text with
  | .ok fields => .ok fields
  | .error _ => otherDate text

-- Hour, minute, second, microsecond and offset as written.
structure TimeFields where
  hour : Int
  minute : Int
  second : Int
  micro : Int
  offset : Option Int

-- `Z`, `±hh`, `±hhmm` or `±hh:mm`, in seconds.
def offsetOf (text : List Char) : Except Fault Int := do
  match text with
  | [c] => if c = 'Z' ∨ c = 'z' then return 0 else throw .unreadableDate
  | sign :: rest =>
    if (sign ≠ '+' ∧ sign ≠ '-') ∨ rest.length ∉ [2, 4, 5] then throw .unreadableDate
    let hours ← fieldNumber (rest.take 2)
    let minutes ← match rest.drop 2 with
      | [] => pure 0
      | ':' :: minutes => fieldNumber minutes
      | minutes => fieldNumber minutes
    if 59 < minutes ∨ 23 < hours then throw .unreadableDate
    let seconds := (hours * 60 + minutes) * 60
    return if sign = '-' then -seconds else seconds
  | [] => throw .unreadableDate

def startsOffset (text : List Char) : Bool :=
  text.head?.any fun c => c = '-' || c = '+' || c = 'Z' || c = 'z'

-- Ends the time here, if the text does or an offset follows, and else reads on.
def endOr (fields : TimeFields) (text : List Char)
    (more : Unit → Except Fault TimeFields) : Except Fault TimeFields := do
  if text.isEmpty then return fields
  if startsOffset text then return { fields with offset := some (← offsetOf text) }
  more ()

-- Digits after a point or comma, cut off after six of them, in microseconds.
def microsOf (digits : List Char) : Except Fault Int := do
  let used := digits.take 6
  return (← fieldNumber used) * (Nat.pow 10 (6 - used.length) : Nat)

-- `hh`, `hhmm`, `hhmmss` with or without colons, a fraction of the second and an offset.
def timeOf (text : List Char) : Except Fault TimeFields := do
  if text.length < 2 then throw .unreadableDate
  endOr ⟨0, 0, 0, 0, none⟩ text fun _ => do
    let hour ← fieldNumber (text.take 2)
    let rest := text.drop 2
    endOr ⟨hour, 0, 0, 0, none⟩ rest fun _ => do
      let colons := rest.head? = some ':'
      let rest := if colons then rest.drop 1 else rest
      let minute ← fieldNumber (rest.take 2)
      let rest := rest.drop 2
      endOr ⟨hour, minute, 0, 0, none⟩ rest fun _ => do
        if colons ∧ rest.head? ≠ some ':' then throw .unreadableDate
        let rest := if colons then rest.drop 1 else rest
        let second ← fieldNumber (rest.take 2)
        let rest := rest.drop 2
        endOr ⟨hour, minute, second, 0, none⟩ rest fun _ => do
          let (digits, after) := (rest.drop 1).span Char.isDigit
          if (rest.head? ≠ some '.' ∧ rest.head? ≠ some ',') ∨ digits.isEmpty then
            throw .unreadableDate
          endOr ⟨hour, minute, second, ← microsOf digits, none⟩ after fun _ =>
            .error .unreadableDate

def wallOf (date : DateFields) (time : TimeFields) : Except Fault WallTime := do
  let fields := [date.year, date.month, date.day, time.hour, time.minute, time.second]
  if fields.any (· < 0) then throw .unreadableDate
  match Date.of? date.year.toNat date.month.toNat date.day.toNat,
      TimeOfDay.of? time.hour.toNat time.minute.toNat time.second.toNat time.micro.toNat with
  | some date, some time => return ⟨date, time⟩
  | _, _ => throw .unreadableDate

-- A date that fills the text, or a date and a time with any one character between them. The hour
-- 24 stands for the midnight that ends the day.
def read (text : List Char) : Except Fault DateTime := do
  if text.any (127 < ·.toNat) then throw .unreadableDate
  let date ← dateOf text
  let time ← match date.rest with
    | [] => pure ⟨0, 0, 0, 0, none⟩
    | _ :: rest => timeOf rest
  if time.hour = 24 then
    if time.minute ≠ 0 ∨ time.second ≠ 0 ∨ time.micro ≠ 0 then throw .unreadableDate
    let wall ← wallOf date { time with hour := 0 }
    return ⟨← wall.addDays 1, time.offset⟩
  else return ⟨← wallOf date time, time.offset⟩

end TimePanel.Iso
