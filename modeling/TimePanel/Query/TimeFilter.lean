import TimePanel.Query.TimeColumn
import TimePanel.TimeRange.Bounds

/-! The conditions and numbers that a window of time puts into a query. -/

namespace TimePanel

namespace TimeBounds

-- Both ends in whole ticks of a unit, rounded down.
def ticks (bounds : TimeBounds) (unit : TimeUnit) : Int × Int :=
  (bounds.start.ticks unit, bounds.finish.ticks unit)

def condition (column low high : String) : String :=
  column ++ " >= " ++ low ++ " AND " ++ column ++ " <= " ++ high

-- The condition that a column lies in the window. Columns that count time are compared with
-- numbers, others with dates on the clock of the zone.
def filter (bounds : TimeBounds) (column : String) (schema : Option ColumnDescriptor)
    (zone : Zone) : Except Fault String := do
  let unit := TimeColumn.unit column schema
  if TimeColumn.countsTime column unit then
    let (low, high) := bounds.ticks (TimeColumn.unitOr column unit)
    return condition column (toString low) (toString high)
  else
    let low ← zone.reading bounds.start
    let high ← zone.reading bounds.finish
    return condition column ("'" ++ low.wall.literal ++ "'") ("'" ++ high.wall.literal ++ "'")

-- The seconds in a bucket, at least one, such that about `maxPoints` buckets cover the window.
def interval (bounds : TimeBounds) (maxPoints : Int) : Except Fault Int :=
  if maxPoints = 0 then .error .divisionByZero
  else .ok (max 1 (Int.fdiv (Int.fdiv bounds.durationMillis maxPoints) 1000))

end TimeBounds

end TimePanel
