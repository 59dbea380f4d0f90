import TimePanel.Surroundings

/-! Cells of the x axis as milliseconds since the start of 1970. -/

namespace TimePanel

-- Numbers that may count time, dates with a time and texts that read as such become milliseconds.
-- All else stays as it is. A clock without an offset is one in universal time.
def Cell.coerceTime (dates : DateReader) (cell : Cell) : Except Fault Cell :=
  match cell with
  | .dateTime value => millis (Instant.ofDateTime value)
  | cell =>
    match cell.number? with
    | some n => if Epoch.isPlausible n then millis (Instant.ofEpoch n) else .ok cell
    | none =>
      match cell with
      | .text s =>
        if (Text.strip s.toList).isEmpty then .ok cell
        else
          match dates.free s.toList with
          | .ok value => millis (Instant.ofDateTime value)
          | .error fault => if fault.isOfValue then .ok cell else .error fault
      | cell => .ok cell
where
  millis (instant : Except Fault Instant) : Except Fault Cell :=
    instant.map fun instant => .int instant.epochMillis

-- The row with the cell of a column coerced.
def Row.coerceTime (dates : DateReader) (column : String) (row : Row) : Except Fault Row :=
  ((row.get column).coerceTime dates).map (row.set column)

end TimePanel
