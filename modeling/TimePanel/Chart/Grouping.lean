import TimePanel.Cell.Identity

/-! Splitting rows into groups by the label of a column. -/

namespace TimePanel

-- A row with its place among all rows.
abbrev PlacedRow := Row × Nat

-- The label that a row has in a column; a missing cell has an empty one.
def Row.label (row : Row) (column : String) : String := (row.get column).label

-- Groups of rows with equal labels, in order of first appearance.
def groupRows (rows : List PlacedRow) (column : String) : List (String × List PlacedRow) :=
  (distinct (rows.map (·.1.label column))).map fun label =>
    (label, rows.filter (·.1.label column = label))

-- The groups by a column, or all rows as one group under another name.
def groupRowsOr (rows : List PlacedRow) (column : Option String) (name : String) :
    List (String × List PlacedRow) :=
  match column with
  | some column => groupRows rows column
  | none => [(name, rows)]

end TimePanel
