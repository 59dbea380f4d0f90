import TimePanel.TimeRange.Descriptor
import TimePanel.TimeRange.Expression

/-! Resolving descriptions of ranges to instants. -/

namespace TimePanel

-- A window of time with its two ends.
structure TimeBounds where
  start : Instant
  finish : Instant
deriving DecidableEq, Repr

namespace TimeBounds

-- Whole milliseconds from the start to the end.
def durationMillis (bounds : TimeBounds) : Int := (bounds.finish.ns - bounds.start.ns) / 1000000

def universalText (instant : Instant) : Except Fault String := do
  return DateTime.text ⟨← instant.universal, some 0⟩

-- Both ends as text in universal time and in milliseconds.
def toCell (bounds : TimeBounds) : Except Fault Cell := do
  return .object
    [("from", .text (← universalText bounds.start)),
     ("to", .text (← universalText bounds.finish)),
     ("from_ms", .int bounds.start.epochMillis),
     ("to_ms", .int bounds.finish.epochMillis),
     ("duration_ms", .int bounds.durationMillis)]

end TimeBounds

namespace RangeDescriptor

variable (dates : DateReader) (now : Instant) (zone : Zone)

-- Both ends on their own, whether or not the range is enabled and in order.
def endpoints (descriptor : RangeDescriptor) :
    Except Fault (Option Instant × Option Instant) := do
  let start ← descriptor.start.toCell.boundInstant dates now zone
  let finish ← descriptor.effectiveFinish.toCell.boundInstant dates now zone
  return (start, finish)

-- The window of an enabled range whose start comes before its end.
def bounds (descriptor : RangeDescriptor) : Except Fault (Option TimeBounds) := do
  if descriptor.isDisabled then return none
  match ← descriptor.endpoints dates now zone with
  | (some start, some finish) =>
    return if start.ns < finish.ns then some ⟨start, finish⟩ else none
  | _ => return none

end RangeDescriptor

-- The window that a value describes. What is no range describes none.
def Cell.bounds (cell : Cell) (dates : DateReader) (now : Instant) (zone : Zone) :
    Except Fault (Option TimeBounds) :=
  match RangeDescriptor.ofCell cell with
  | some descriptor => descriptor.bounds dates now zone
  | none => .ok none

namespace RangeInput

variable (input : RangeInput) (dates : DateReader) (now : Instant) (zone : Zone)

-- The ends and the window of whatever is handed over.
def endpoints : Except Fault (Option Instant × Option Instant) := do
  match ← input.descriptor with
  | some descriptor => descriptor.endpoints dates now zone
  | none => return (none, none)

def bounds : Except Fault (Option TimeBounds) := do
  match ← input.descriptor with
  | some descriptor => descriptor.bounds dates now zone
  | none => return none

end RangeInput

end TimePanel
