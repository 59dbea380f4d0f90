import TimePanel.Calendar.DateTime
import TimePanel.Calendar.FreeForm.Words
import TimePanel.Calendar.FreeForm.Parts

/-! Reading freely written dates and times: numbers and names in many orders, with labels, halves
of the day, zone names and offsets. What is not written is taken from a given day. -/

namespace TimePanel.FreeForm

-- What has been found so far. An offset is in seconds east of universal time.
structure Findings where
  parts : Parts
  weekday : Option Nat
  hour : Option Int
  minute : Option Int
  second : Option Int
  micro : Option Int
  zoneName : Option Token
  offset : Option Int
  halfDay : Option Nat
deriving Repr

def Findings.none : Findings :=
  ⟨.none, .none, .none, .none, .none, .none, .none, .none, .none⟩

-- The findings after a token, and how many of the tokens after it were used up with it.
structure Progress where
  findings : Findings
  used : Nat

def require {α : Type} (value : Option α) : Except Fault α :=
  value.elim (.error .unreadableDate) .ok

-- A decimal number without sign and exponent.
def decimal? (token : Token) : Option Rat :=
  let (whole, rest) := token.span Text.isDecimal
  let fraction := match rest with
    | '.' :: digits => some digits
    | [] => some []
    | _ => none
  fraction.bind fun fraction =>
    if (whole ++ fraction).isEmpty ∨ !fraction.all Text.isDecimal then none
    else
      (Literal.digits (whole ++ fraction)).values |> Literal.ofDigits |> fun n =>
        some (mkRat n (Nat.pow 10 fraction.length))

-- Words that are read as numbers, and then are none that a date could hold.
def isNumberWord (token : Token) : Bool :=
  ["inf", "infinity", "nan"].contains (String.ofList (token.map Char.toLower))

def number (token : Token) : Except Fault Int := require (Literal.integer? token)

-- Fractions are only taken of numbers below 10 ^ 28.
def split (value : Rat) : Except Fault (Int × Rat) :=
  if (Nat.pow 10 28 : Rat) ≤ value then .error .precisionExceeded
  else .ok (value.floor, value - value.floor)

-- Minutes whose fraction is seconds.
def withMinutes (findings : Findings) (value : Rat) : Except Fault Findings := do
  let (minute, fraction) ← split value
  return { findings with
    minute := some minute
    second := if fraction = 0 then none else some (60 * fraction).floor }

-- Seconds whose fraction is cut off after six digits.
def withSeconds (findings : Findings) (token : Token) : Except Fault Findings := do
  let (whole, rest) := token.span (· ≠ '.')
  match rest with
  | [] => return { findings with second := some (← number whole), micro := some 0 }
  | _ :: fraction =>
    let fraction := fraction ++ List.replicate (6 - fraction.length) '0'
    return { findings with
      second := some (← number whole), micro := some (← number (fraction.take 6)) }

def withLabel (findings : Findings) (token : Token) (value : Rat) (label : Nat) :
    Except Fault Findings := do
  match label with
  | 0 =>
    let (hour, fraction) ← split value
    return { findings with
      hour := some hour
      minute := if fraction = 0 then findings.minute else some (60 * fraction).floor }
  | 1 => withMinutes findings value
  | 2 => withSeconds findings token
  | _ => return findings

-- The label that belongs to a number: the one after it, perhaps behind a blank, or else the one
-- before it, which names the next smaller part. A blank before it is skipped at the end only.
def labelOf? (before rest : List Token) : Option (Nat × Nat) :=
  match rest.head?.bind clockPart? with
  | some label => some (label, 1)
  | none =>
    match (if rest.head? = some [' '] then rest[1]?.bind clockPart? else none) with
    | some label => some (label, 2)
    | none =>
      match before.head?.bind clockPart? with
      | some label => some (label + 1, 0)
      | none =>
        if rest.isEmpty ∧ before.head? = some [' '] then
          (before[1]?.bind clockPart?).map fun label => (label + 1, 0)
        else none

def onHalf (hour : Int) (half : Nat) : Int :=
  if hour < 12 ∧ half = 1 then hour + 12
  else if hour = 12 ∧ half = 0 then 0
  else hour

def withParts (findings : Findings) (parts : Except Fault Parts) (used : Nat) :
    Except Fault Progress := do
  return ⟨{ findings with parts := ← parts }, used⟩

-- Three numbers or names with the same mark between them, or only two.
def separated (findings : Findings) (token mark : Token) (rest : List Token) :
    Except Fault Progress := do
  let parts ← findings.parts.pushText token false
  match rest with
  | [] => return ⟨{ findings with parts }, 1⟩
  | second :: rest =>
    if isFiller second then return ⟨{ findings with parts }, 1⟩
    let parts ← if second.all Text.isDigit then parts.pushText second false
      else do parts.pushMonth (← require (month? second))
    if rest.head? ≠ some mark then return ⟨{ findings with parts }, 2⟩
    let third ← require rest[1]?
    let parts ← match month? third with
      | some month => parts.pushMonth month
      | none => parts.pushText third false
    return ⟨{ findings with parts }, 4⟩

-- Hours, minutes and perhaps seconds with colons between them.
def clock (findings : Findings) (value : Rat) (rest : List Token) :
    Except Fault Progress := do
  let minutes ← require (decimal? (← require rest[1]?))
  let findings ← withMinutes { findings with hour := some value.floor } minutes
  match rest[2]?, rest[3]? with
  | some mark, some seconds =>
    if mark = [':'] then return ⟨← withSeconds findings seconds, 4⟩
    else return ⟨findings, 2⟩
  | _, _ => return ⟨findings, 2⟩

-- Digits without marks between them: a date of eight digits, perhaps with a time of four or six.
def compact (findings : Findings) (token : Token) : Except Fault Progress := do
  let parts ← findings.parts.pushText (token.take 4) true
  let parts ← parts.pushText ((token.drop 4).take 2) false
  let parts ← parts.pushText ((token.drop 6).take 2) false
  let findings := { findings with parts }
  if token.length ≤ 8 then return ⟨findings, 0⟩
  let findings := { findings with
    hour := some (← number ((token.drop 8).take 2))
    minute := some (← number ((token.drop 10).take 2)) }
  if token.length ≤ 12 then return ⟨findings, 0⟩
  return ⟨{ findings with second := some (← number (token.drop 12)) }, 0⟩

def sixDigits (findings : Findings) (token : Token) : Except Fault Progress := do
  if findings.parts.values.isEmpty ∧ !token.contains '.' then
    let parts ← findings.parts.pushText (token.take 2) false
    let parts ← parts.pushText ((token.drop 2).take 2) false
    withParts findings (parts.pushText (token.drop 4) false) 0
  else
    let findings := { findings with
      hour := some (← number (token.take 2)), minute := some (← number ((token.drop 2).take 2)) }
    return ⟨← withSeconds findings (token.drop 4), 0⟩

def bareTime (findings : Findings) (token : Token) : Except Fault Progress := do
  let findings := { findings with hour := some (← number (token.take 2)) }
  if token.length = 4 then
    return ⟨{ findings with minute := some (← number (token.drop 2)) }, 0⟩
  return ⟨findings, 0⟩

-- A number that stands alone, or before a half of the day.
def loose (findings : Findings) (value : Rat) (rest : List Token) :
    Except Fault Progress := do
  match rest with
  | [] => withParts findings (findings.parts.pushValue value) 1
  | next :: rest =>
    if isFiller next then
      match rest.head?.bind halfDay? with
      | some half => return ⟨{ findings with hour := some (onHalf value.floor half) }, 2⟩
      | none => withParts findings (findings.parts.pushValue value) 1
    else
      match halfDay? next, decide (value < 24) with
      | some half, true => return ⟨{ findings with hour := some (onHalf value.floor half) }, 1⟩
      | _, _ =>
        if findings.parts.admitsDay value then
          withParts findings (findings.parts.pushValue value) 0
        else throw .unreadableDate

-- What a number means is told by its length, by the labels around it and by the mark after it, in
-- this order.
def numeric (findings : Findings) (before : List Token) (token : Token) (value : Rat)
    (rest : List Token) : Except Fault Progress := do
  let size := token.length
  let closed : Bool := match rest.head? with
    | none => true
    | some next => next = [' '] || (clockPart? next).isSome
  if findings.parts.values.length = 3 ∧ (size = 2 ∨ size = 4) ∧ findings.hour.isNone ∧ closed then
    bareTime findings token
  else if size = 6 ∨ (6 < size ∧ token.findIdx? (· = '.') = some 6) then
    sixDigits findings token
  else if size = 8 ∨ size = 12 ∨ size = 14 then compact findings token
  else
    match labelOf? before rest with
    | some (label, used) => return ⟨← withLabel findings token value label, used⟩
    | none =>
      if rest.head? = some [':'] ∧ 1 < rest.length then clock findings value rest
      else
        match rest.head? with
        | some mark =>
          if mark = ['-'] ∨ mark = ['/'] ∨ mark = ['.'] then
            separated findings token mark rest.tail
          else loose findings value rest
        | none => loose findings value rest

-- Years of two digits lie within fifty years of today.
def fullYear (today : Date) (year : Int) : Int :=
  if 100 ≤ year then year
  else
    let century : Int := today.year / 100 * 100
    let year := year + century
    if today.year + 50 ≤ year then year - 100
    else if year < today.year - 50 then year + 100
    else year

-- A month, perhaps with numbers after a mark, or with a year after "of".
def monthFirst (today : Date) (findings : Findings) (month : Nat) (rest : List Token) :
    Except Fault Progress := do
  let parts ← findings.parts.pushMonth month
  match rest with
  | [] => return ⟨{ findings with parts }, 0⟩
  | mark :: rest =>
    if mark = ['-'] ∨ mark = ['/'] then
      let parts ← parts.pushText (← require rest[0]?) false
      if rest[1]? = some mark then
        withParts findings (parts.pushText (← require rest[2]?) false) 4
      else return ⟨{ findings with parts }, 2⟩
    else
      match rest with
      | word :: blank :: year :: _ =>
        if mark = [' '] ∧ blank = [' '] ∧ isOf word then
          if year.all Text.isDigit then
            withParts findings (ofYear parts (← number year)) 4
          else return ⟨{ findings with parts }, 4⟩
        else return ⟨{ findings with parts }, 0⟩
      | _ => return ⟨{ findings with parts }, 0⟩
where
  -- The year is known to be one, and its century is settled at once.
  ofYear (parts : Parts) (year : Int) : Except Fault Parts :=
    ({ parts with century := true } : Parts).pushYear (fullYear today year)

def takesZoneName (findings : Findings) (offset : Option Int) (token : Token) : Bool :=
  findings.hour.isSome && findings.zoneName.isNone && offset.isNone && isZoneName token

-- After a name the sign of an offset is turned round, since it then counts from the zone to
-- universal time. Names of universal time itself are dropped in that case.
def namedZone (findings : Findings) (token : Token) (next : Option Token) : Findings :=
  if next = some ['+'] ∨ next = some ['-'] then
    { findings with
      zoneName := if isUniversal token then none else some token
      offset := none }
  else { findings with zoneName := some token, offset := offsetOfName? token }

-- `+hhmm`, `+hh:mm` or `+hh`, perhaps followed by a zone's name in brackets.
def numberedZone (findings : Findings) (positive : Bool) (rest : List Token) :
    Except Fault Progress := do
  let digits ← require rest.head?
  let (hours, minutes, used) ←
    if digits.length = 4 then do
      pure (← number (digits.take 2), ← number (digits.drop 2), 0)
    else if rest[1]? = some [':'] then do
      pure (← number digits, ← number (← require rest[2]?), 2)
    else if digits.length ≤ 2 then do
      pure (← number digits, (0 : Int), 0)
    else throw .unreadableDate
  let size := hours * 3600 + minutes * 60
  let findings := { findings with offset := some (if positive then size else -size) }
  match rest.drop (used + 1) with
  | gap :: opening :: name :: closing :: _ =>
    if isFiller gap ∧ opening = ['('] ∧ closing = [')'] ∧ 3 ≤ name.length ∧
        takesZoneName findings none name then
      return ⟨{ findings with zoneName := some name }, used + 5⟩
    else return ⟨findings, used + 1⟩
  | _ => return ⟨findings, used + 1⟩

def halfOfDay (findings : Findings) (half : Nat) : Except Fault Progress := do
  let hour ← require findings.hour
  if hour < 0 ∨ 12 < hour then throw .unreadableDate
  return ⟨{ findings with hour := some (onHalf hour half), halfDay := some half }, 0⟩

-- The meaning of one token between those before it, nearest first, and those after it. `flipped`
-- tells that the token is a sign turned round by the zone's name before it.
def step (today : Date) (findings : Findings) (before : List Token) (flipped : Bool) (token : Token)
    (rest : List Token) : Except Fault Progress := do
  match decimal? token with
  | some value => numeric findings before token value rest
  | none =>
    if isNumberWord token then throw .unreadableDate
    match weekday? token with
    | some day => return ⟨{ findings with weekday := some day }, 0⟩
    | none =>
    match month? token with
    | some month => monthFirst today findings month rest
    | none =>
    match halfDay? token with
    | some half => halfOfDay findings half
    | none =>
      if takesZoneName findings findings.offset token then
        return ⟨namedZone findings token rest.head?, 0⟩
      else if findings.hour.isSome ∧ (token = ['+'] ∨ token = ['-']) then
        numberedZone findings ((token = ['+']) != flipped) rest
      else if isFiller token then return ⟨findings, 0⟩
      else throw .unreadableDate

-- Whether a sign after this token counts the other way.
def flipsSign (findings : Findings) (token : Token) : Bool :=
  (decimal? token).isNone && (weekday? token).isNone && (month? token).isNone &&
    (halfDay? token).isNone && takesZoneName findings findings.offset token

def walk (today : Date) :
    Nat → Findings → List Token → Bool → List Token → Except Fault Findings
  | 0, findings, _, _, _ | _, findings, _, _, [] => .ok findings
  | fuel + 1, findings, before, flipped, token :: rest => do
    let progress ← step today findings before flipped token rest
    let used := rest.take progress.used
    walk today fuel progress.findings (used.reverse ++ token :: before) (flipsSign findings token)
      (rest.drop progress.used)

def findingsOf (today : Date) (tokens : List Token) : Except Fault Findings :=
  walk today tokens.length .none [] false tokens

def isEmpty (findings : Findings) (given : Parts.Assigned) : Bool :=
  given.year.isNone && given.month.isNone && given.day.isNone && findings.weekday.isNone &&
    findings.hour.isNone && findings.minute.isNone && findings.second.isNone &&
    findings.micro.isNone && findings.zoneName.isNone && findings.offset.isNone &&
    findings.halfDay.isNone

def natural (value : Int) : Except Fault Nat :=
  if value < 0 then .error .unreadableDate else .ok value.toNat

-- The date that was given, completed from today. Without a day, today's is used or the last one of
-- a shorter month, and a weekday then moves on to its next occurrence.
def dateFrom (today : Date) (weekday : Option Nat) (year month day : Option Int) :
    Except Fault Date := do
  let yearNumber ← natural (year.getD today.year)
  let monthNumber ← natural (month.getD today.month)
  let dayNumber ← natural <| day.getD
    (min today.day (Calendar.daysInMonth yearNumber monthNumber) : Nat)
  let date ← require (Date.of? yearNumber monthNumber dayNumber)
  match weekday, day with
  | some weekday, none =>
    let days := (7 + weekday - date.weekday) % 7
    (Date.ofEpochDay? (date.epochDay + days)).elim (.error .dateOutOfRange) .ok
  | _, _ => return date

def timeFrom (findings : Findings) : Except Fault TimeOfDay := do
  let hour ← natural (findings.hour.getD 0)
  let minute ← natural (findings.minute.getD 0)
  let second ← natural (findings.second.getD 0)
  let micro ← natural (findings.micro.getD 0)
  require (TimeOfDay.of? hour minute second micro)

-- Offsets are limited to a thousand million days.
def limited (offset : Int) : Except Fault (Option Int) :=
  if 999999999 < (offset / 86400).natAbs then .error .dateOutOfRange else .ok (some offset)

-- The offset meant by the findings: names of universal time and the offset zero are universal
-- time, and other names without an offset say nothing.
def offsetFrom (findings : Findings) : Except Fault (Option Int) :=
  match findings.zoneName, findings.offset with
  | none, none => .ok none
  | none, some offset => limited offset
  | some name, offset =>
    if name = "Z".toList ∨ name = "z".toList ∨ name = "UTC".toList ∨ isUniversal name then
      .ok (some 0)
    else offset.elim (.ok none) limited

def read (today : Date) (text : List Char) : Except Fault DateTime := do
  let findings ← findingsOf today (tokens text)
  let given ← findings.parts.assign
  if isEmpty findings given then throw .unreadableDate
  let year := given.year.map fun year =>
    if findings.parts.century then year else fullYear today year
  let date ← dateFrom today findings.weekday year given.month given.day
  let time ← timeFrom findings
  return ⟨⟨date, time⟩, ← offsetFrom findings⟩

end TimePanel.FreeForm
