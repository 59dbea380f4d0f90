import TimePanel.Calendar.DateTime
import TimePanel.Zone.Basic

/-! Points in time, and the clock readings that show them. -/

namespace TimePanel

-- Nanoseconds since the start of 1970 in universal time.
structure Instant where
  ns : Int
deriving DecidableEq, Repr, Inhabited

-- What a clock in a zone shows, where `repeated` marks the second pass through a repeated hour.
structure Reading where
  wall : WallTime
  repeated : Bool
deriving DecidableEq, Repr

namespace Instant

def shift (instant : Instant) (nanos : Int) : Instant := ⟨instant.ns + nanos⟩

def epochMillis (instant : Instant) : Int := instant.ns / 1000000

-- The first and the last instant that a clock can show in every zone: one day inside the ends of
-- the calendar.
def minNs : Int := -62135510400000000000
def maxNs : Int := 253402214399999999000

def isRepresentable (instant : Instant) : Bool := minNs ≤ instant.ns && instant.ns ≤ maxNs

-- The instant at which a clock with the given offset in seconds shows a wall time.
def ofWall (wall : WallTime) (offset : Int) : Instant :=
  ⟨(wall.epochMicros - offset * 1000000) * 1000⟩

def secondsPerDay : Int := 86400

-- Date and time without an offset are universal time.
def ofDateTime (value : DateTime) : Except Fault Instant :=
  let offset := value.offset.getD 0
  if offset.natAbs < secondsPerDay then .ok (ofWall value.wall offset)
  else .error .offsetOutOfRange

-- The clock reading in universal time, without the nanoseconds below a microsecond.
def universal (instant : Instant) : Except Fault WallTime :=
  (WallTime.ofEpochMicros? (instant.ns / 1000)).elim (.error .dateOutOfRange) .ok

end Instant

namespace Zone

def reading (zone : Zone) (instant : Instant) : Except Fault Reading := do
  let universal ← instant.universal
  let second := universal.epochSeconds
  match WallTime.ofEpochMicros? (universal.epochMicros + zone.offsetAt second * 1000000) with
  | some wall => .ok ⟨wall, zone.repeatedAt second⟩
  | none => .error .dateOutOfRange

-- The offset of the clock that shows a reading.
def offsetOf (zone : Zone) (reading : Reading) : Int :=
  zone.wallOffset reading.wall.epochSeconds reading.repeated

def instantOf (zone : Zone) (reading : Reading) : Instant :=
  .ofWall reading.wall (zone.offsetOf reading)

-- Date and time with the offset that the clock of the zone has then.
def dateTime (zone : Zone) (instant : Instant) : Except Fault DateTime := do
  let reading ← zone.reading instant
  return ⟨reading.wall, some (zone.offsetOf reading)⟩

end Zone

end TimePanel
