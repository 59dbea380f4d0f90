import TimePanel.Cell.Text

/-! The order of rows and categories along the x axis. -/

namespace TimePanel

-- What a row is ordered by. Rows without a value come last.
inductive SortKey where
  | number (value : Number)
  | text (value : String)
  | last
deriving DecidableEq, Repr

namespace SortKey

-- Texts are ordered by code points.
def le : SortKey → SortKey → Bool
  | _, .last => true
  | .last, _ => false
  | .number a, .number b => !b.lt a
  | .text a, .text b => a ≤ b
  | .number _, .text _ => true
  | .text _, .number _ => false

-- Cells are compared as numbers only if `numeric`.
def ofCell (numeric : Bool) : Cell → SortKey
  | .null => .last
  | cell =>
    match cell.plainNumber? with
    | some n => if numeric then .number n else .text cell.display
    | none => .text cell.display

end SortKey

-- The items in ascending order of their keys; those with equal keys keep their order. A number that
-- is none compares with nothing, and where it comes to stand is not settled by the order.
def sortByKey {α : Type} (key : α → SortKey) (items : List α) : List α :=
  ((items.map fun item => (key item, item)).mergeSort fun a b => a.1.le b.1).map (·.2)

-- Whether a column holds plain numbers only, apart from missing cells.
def isNumericColumn (column : String) (rows : List Row) : Bool :=
  rows.all fun row => (row.get column).isNull || (row.get column).plainNumber?.isSome

-- The rows in ascending order of a column: by number if it holds numbers only, else by text.
def sortRows (rows : List Row) (column : String) : List Row :=
  let numeric := isNumericColumn column rows
  sortByKey (fun row => .ofCell numeric (row.get column)) rows

-- Whether the cells of a column can be compared: those that are compared as texts have to be
-- written.
def isComparableColumn (column : String) (rows : List Row) : Bool :=
  isNumericColumn column rows || rows.all fun row => (row.get column).isWritable

-- The rows put in the order of a column, which they may not have.
def orderRows (rows : List Row) (column : String) : Except Fault (List Row) :=
  if isComparableColumn column rows then .ok (sortRows rows column)
  else .error .digitsExceeded

-- The labels in ascending order: by number if all of them read as numbers, else by text.
def sortCategories (labels : List String) : List String :=
  let number? (label : String) : Option Number := Literal.number? label.toList
  if labels.all fun label => (number? label).isSome then
    sortByKey (fun label => (number? label).elim .last .number) labels
  else sortByKey .text labels

end TimePanel
