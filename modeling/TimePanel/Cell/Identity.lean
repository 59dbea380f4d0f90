import TimePanel.Cell.Text

/-! When two cells hold the same value, and the distinct values of a list. -/

namespace TimePanel

-- The items of a list without those that an earlier one equals, in order of appearance.
def distinctBy {α : Type} (same : α → α → Bool) : List α → List α
  | [] => []
  | a :: rest => a :: (distinctBy same rest).filter fun b => !same a b

def distinct {α : Type} [BEq α] (items : List α) : List α := distinctBy (· == ·) items

-- Two moments with offsets are the same at the same instant. A moment without one only equals
-- others without one.
def DateTime.same (a b : DateTime) : Bool :=
  match a.offset, b.offset with
  | some x, some y => Instant.ofWall a.wall x = Instant.ofWall b.wall y
  | none, none => a.wall = b.wall
  | _, _ => false

namespace Cell

-- The number that a cell is compared as, where truth values are 0 and 1.
def comparable? : Cell → Option Number
  | .bool b => some (.int (if b then 1 else 0))
  | cell => cell.plainNumber?

-- Whether a cell can be told apart from others by its value alone; lists and objects cannot.
def isScalar : Cell → Bool
  | .list _ | .object _ | .record _ _ => false
  | _ => true

-- A unit is the same as its name.
def written : Cell → Cell
  | .unit u => .text u.name
  | cell => cell

-- Whether two scalars are the same. Not-a-number differs from everything, itself included.
def same (a b : Cell) : Bool :=
  match a.written, b.written with
  | .null, .null => true
  | .text s, .text t => s = t
  | .dateTime d, .dateTime e => d.same e
  | .date d, .date e => d = e
  | .time t, .time u => t = u
  | .instant i, .instant j => i = j
  | a, b =>
    match a.comparable?, b.comparable? with
    | some x, some y => x.same y
    | _, _ => false

-- A scalar stands for itself, anything else for its text.
def identity (cell : Cell) : Except Fault Cell :=
  if cell.isScalar then .ok cell
  else if cell.isWritable then .ok (.text cell.quoted)
  else .error .digitsExceeded

-- The number of different values.
def countDistinct (cells : List Cell) : Except Fault Nat := do
  return (distinctBy same (← cells.mapM identity)).length

end Cell

end TimePanel
