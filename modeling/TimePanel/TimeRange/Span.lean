import TimePanel.Instant

/-! Spans of time that ranges are written in, and the calendar units they snap to. -/

namespace TimePanel

inductive Span where
  | second
  | minute
  | hour
  | day
  | week
  | month
  | year
deriving DecidableEq, Repr

namespace Span

def all : List Span := [.second, .minute, .hour, .day, .week, .month, .year]

def letter : Span → Char
  | .second => 's'
  | .minute => 'm'
  | .hour => 'h'
  | .day => 'd'
  | .week => 'w'
  | .month => 'M'
  | .year => 'y'

def ofLetter? (c : Char) : Option Span := all.find? (·.letter = c)

-- Months count thirty days and years 365, whatever the calendar says.
def seconds : Span → Nat
  | .second => 1
  | .minute => 60
  | .hour => 3600
  | .day => 86400
  | .week => 7 * 86400
  | .month => 30 * 86400
  | .year => 365 * 86400

def nanos (span : Span) : Nat := span.seconds * 1000000000

end Span

-- Units of the calendar and the clock that a moment can be rounded down to.
inductive SnapUnit where
  | minute
  | hour
  | day
  | week
  | month
  | year
deriving DecidableEq, Repr

namespace SnapUnit

def all : List SnapUnit := [.minute, .hour, .day, .week, .month, .year]

def letter : SnapUnit → Char
  | .minute => 'm'
  | .hour => 'h'
  | .day => 'd'
  | .week => 'w'
  | .month => 'M'
  | .year => 'y'

def ofLetter? (c : Char) : Option SnapUnit := all.find? (·.letter = c)

-- The reading at which the unit of the given reading began. Weeks begin on Sunday, and are counted
-- back on the calendar, which forgets which pass through a repeated hour it was.
def start (unit : SnapUnit) (reading : Reading) : Except Fault Reading := do
  let wall := reading.wall
  let date := wall.date
  match unit with
  | .minute =>
    return { reading with wall := ⟨date, { wall.time with second := 0, micro := 0 }⟩ }
  | .hour =>
    return { reading with wall := ⟨date, { wall.time with minute := 0, second := 0, micro := 0 }⟩ }
  | .day => return { reading with wall := ⟨date, .midnight⟩ }
  | .week =>
    let wall ← WallTime.addDays ⟨date, .midnight⟩ (-((date.weekday + 1) % 7 : Nat))
    return ⟨wall, false⟩
  | .month => return { reading with wall := ⟨{ date with day := 1 }, .midnight⟩ }
  | .year => return { reading with wall := ⟨{ date with month := 1, day := 1 }, .midnight⟩ }

end SnapUnit

-- The instant rounded down to the start of the unit that it lies in, on the clock of the zone.
def Instant.snap (instant : Instant) (unit : SnapUnit) (zone : Zone) : Except Fault Instant := do
  let reading ← zone.reading instant
  return zone.instantOf (← unit.start reading)

-- The same for a unit given by its letter, which is looked at after the clock.
def Instant.snapTo (instant : Instant) (unit : String) (zone : Zone) : Except Fault Instant := do
  let _ ← zone.reading instant
  match unit.toList with
  | [c] =>
    match SnapUnit.ofLetter? c with
    | some unit => instant.snap unit zone
    | none => throw (.unknownSnapUnit unit)
  | _ => throw (.unknownSnapUnit unit)

end TimePanel
