import TimePanel.Number.Basic
import TimePanel.Instant
import TimePanel.TimeUnit

/-! Numbers that count time since the start of 1970 in an unknown unit, which their size tells. -/

namespace TimePanel

namespace Epoch

-- Sizes beyond these limits are counted in the units named.
def nanosecondLimit : Number := .int 1000000000000000000
def microsecondLimit : Number := .int 1000000000000000
def millisecondLimit : Number := .int 1000000000000

-- A number is taken for the finest unit whose lower limit it exceeds; seconds have none.
def unitOf (n : Number) : TimeUnit :=
  let size := n.abs
  if nanosecondLimit.lt size then .nanoseconds
  else if microsecondLimit.lt size then .microseconds
  else if millisecondLimit.lt size then .milliseconds
  else .seconds

-- Whether a number may count time since 1970. In seconds only ten digits are accepted.
def isPlausible (n : Number) : Bool :=
  if n.isNaN then false
  else if millisecondLimit.lt n then true
  else (Number.int 1000000000).le n && n.le (Number.int 9999999999)

-- The unit of the mean of the positive numbers. A mean of at most 10^9 is too small for any unit,
-- and then milliseconds are assumed.
def unitOfAll (numbers : List Number) : Except Fault TimeUnit := do
  let positive := numbers.filter fun n => (Number.int 0).lt n
  if positive.isEmpty then return .milliseconds
  let mean ← Number.mean (← Number.sum positive) positive.length
  if (Number.int 1000000000).lt (.float mean) then return unitOf (.float mean)
  return .milliseconds

end Epoch

namespace Instant

-- The instant a number of ticks after the start of 1970. A float is rounded to the nanosecond.
def ofTicks (n : Number) (unit : TimeUnit) : Except Fault Instant :=
  match n with
  | .int n => .ok ⟨n * unit.nanos⟩
  | .float x => (Number.round (x.scale unit.nanos)).map Instant.mk

-- Whole ticks since the start of 1970, rounded down.
def ticks (instant : Instant) (unit : TimeUnit) : Int := instant.ns / unit.nanos

-- The instant that a number of unknown unit stands for.
def ofEpoch (n : Number) : Except Fault Instant := ofTicks n (Epoch.unitOf n)

end Instant

end TimePanel
