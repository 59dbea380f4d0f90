import TimePanel.Surroundings
import TimePanel.TimeRange.Span
import TimePanel.Text.Scan

/-! Written points in time: relative to now, as digits that count since 1970, or as dates. -/

namespace TimePanel

-- Amounts are kept as their digits, of which there may be too many to read.
inductive TimeExpression where
  | now
  | shifted (later : Bool) (amount : List Char) (span : Span) (snap : Option SnapUnit)
  | snapped (unit : SnapUnit)
  | ago (amount : List Char) (span : Span)
  | epoch (digits : List Char)
  | written (text : List Char)
deriving DecidableEq, Repr

namespace TimeExpression

open Text

-- At least one digit and a span's letter, and the text after them.
def amount? (text : List Char) : Option (List Char × Span × List Char) :=
  match text.span isDecimal with
  | ([], _) => none
  | (digits, c :: rest) => (Span.ofLetter? c).map fun span => (digits, span, rest)
  | (_, []) => none

-- A slash and a unit's letter that fill the text, or nothing.
def snap? : List Char → Option (Option SnapUnit)
  | [] => some none
  | ['/', c] => (SnapUnit.ofLetter? c).map some
  | _ => none

-- `now±<digits><span>` or the same with `/<unit>` after it.
def shifted? (text : List Char) : Option TimeExpression := do
  let rest ← after? "now".toList text
  let later ← match rest.head? with
    | some '+' => some true
    | some '-' => some false
    | _ => none
  let (amount, span, rest) ← amount? rest.tail
  return .shifted later amount span (← snap? rest)

-- `now/<unit>`.
def snapped? (text : List Char) : Option TimeExpression := do
  match ← after? "now/".toList text with
  | [c] => return .snapped (← SnapUnit.ofLetter? c)
  | _ => none

-- `<digits><span>`.
def ago? (text : List Char) : Option TimeExpression := do
  match ← amount? text with
  | (amount, span, []) => return .ago amount span
  | _ => none

-- Ten to nineteen digits.
def epoch? (text : List Char) : Option TimeExpression :=
  if text.all isDecimal ∧ 10 ≤ text.length ∧ text.length ≤ 19 then some (.epoch text) else none

-- The meaning of a text without blanks at its ends.
def ofText (text : List Char) : TimeExpression :=
  if text = "now".toList then .now
  else
    (shifted? text <|> snapped? text <|> ago? text <|> epoch? text).getD (.written text)

def amountOf (digits : List Char) : Except Fault Int :=
  (Literal.integer? digits).elim (.error .unreadableDate) .ok

-- The moment of a written date, where a clock without an offset is one in the given zone.
def writtenInstant (dates : DateReader) (text : List Char) (zone : Zone) :
    Except Fault (Option Instant) := do
  let inZone (value : DateTime) : Except Fault (Option Instant) :=
    match value.offset with
    | some _ => (Instant.ofDateTime value).map some
    | none => .ok (some (zone.instantOf ⟨value.wall, false⟩))
  match dates.iso text with
  | .ok value => inZone value
  | .error .unreadableDate =>
    match dates.free text with
    | .ok value => inZone value
    | .error fault => if fault.isOfValue then return none else throw fault
  | .error fault => throw fault

-- The instant meant by an expression, if any.
def evaluate (dates : DateReader) (now : Instant) (zone : Zone) :
    TimeExpression → Except Fault (Option Instant)
  | .now => .ok (some now)
  | .shifted later amount span snap => do
    let nanos := (← amountOf amount) * span.nanos
    let moved := now.shift (if later then nanos else -nanos)
    match snap with
    | some unit => return some (← moved.snap unit zone)
    | none => return some moved
  | .snapped unit => (now.snap unit zone).map some
  | .ago amount span => do return some (now.shift (-(← amountOf amount) * span.nanos))
  | .epoch digits => do return some (← Instant.ofEpoch (.int (← amountOf digits)))
  | .written text => writtenInstant dates text zone

end TimeExpression

-- The instant of any value given as a bound: an instant, a date with a time, a number that counts
-- since 1970, or an expression.
def Cell.instant? (cell : Cell) (dates : DateReader) (now : Instant) (zone : Zone) :
    Except Fault (Option Instant) :=
  match cell with
  | .instant value => .ok (some value)
  | .dateTime value =>
    match value.offset with
    | some _ => (Instant.ofDateTime value).map some
    | none => .ok (some (zone.instantOf ⟨value.wall, false⟩))
  | .int n => (Instant.ofEpoch (.int n)).map some
  | .float x => (Instant.ofEpoch (.float x)).map some
  | .text s =>
    let text := Text.strip s.toList
    if text.isEmpty then .ok none else (TimeExpression.ofText text).evaluate dates now zone
  | _ => .ok none

-- The same, where values that are malformed or lie outside the representable years give no instant.
def Cell.boundInstant (cell : Cell) (dates : DateReader) (now : Instant) (zone : Zone) :
    Except Fault (Option Instant) :=
  match cell.instant? dates now zone with
  | .ok (some found) => .ok (if found.isRepresentable then some found else none)
  | .ok none => .ok none
  | .error fault => if fault.isOfValue then .ok none else .error fault

end TimePanel
