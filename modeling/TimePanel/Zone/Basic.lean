/-! A time zone, seen as the offsets that its clocks show. -/

namespace TimePanel

-- Seconds are counted from the start of 1970, in universal time or on the clock in the zone.
-- Offsets are whole seconds east of universal time, as in all zones that have a name.
structure Zone where
  name : String
  offsetAt : Int → Int
  -- whether the clock has already shown the wall time of this moment once before
  repeatedAt : Int → Bool
  -- the offset of a wall time; the flag chooses the second pass through a repeated hour
  wallOffset : Int → Bool → Int

namespace Zone

-- A zone whose clocks never change.
def fixed (name : String) (offset : Int) : Zone :=
  { name, offsetAt := fun _ => offset, repeatedAt := fun _ => false,
    wallOffset := fun _ _ => offset }

def utc : Zone := fixed "UTC" 0

end Zone

end TimePanel
