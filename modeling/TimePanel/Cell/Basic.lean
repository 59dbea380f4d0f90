import TimePanel.Epoch
import TimePanel.Number.Literal

/-! The values that rows, requests and settings are made of. -/

namespace TimePanel

-- The shapes that a value may already have been checked against.
inductive RecordKind where
  | columnDescriptor
  | fieldMapping
  | styling
  | timeFormatting
  | themeColors
  | chartConfiguration
  | interpolationContext
  | relativeRange
  | absoluteRange
  | queryRange
  | quickRangeItem
deriving DecidableEq, Repr

-- Objects keep the order of their keys. A record is a value that was checked before, its fields by
-- their declared names.
inductive Cell where
  | null
  | bool (value : Bool)
  | int (value : Int)
  | float (value : Binary64)
  | text (value : String)
  | dateTime (value : DateTime)
  | date (value : Date)
  | time (value : TimeOfDay)
  | instant (value : Instant)
  | unit (value : TimeUnit)
  | list (items : List Cell)
  | object (fields : List (String × Cell))
  | record (kind : RecordKind) (fields : List (String × Cell))
deriving Repr, Inhabited

-- A row of a query result: its cells by column name, in column order.
abbrev Row := List (String × Cell)

namespace Row

-- The cell of a column; a missing cell reads as null.
def get (row : Row) (name : String) : Cell := (row.lookup name).getD .null

def has (row : Row) (name : String) : Bool := (row.lookup name).isSome

-- The row with a cell replaced in its place, or added at the end.
def set (row : Row) (name : String) (cell : Cell) : Row :=
  if row.has name then row.map fun (key, old) => (key, if key = name then cell else old)
  else row ++ [(name, cell)]

end Row

namespace Cell

def isNull : Cell → Bool
  | .null => true
  | _ => false

def isBool : Cell → Bool
  | .bool _ => true
  | _ => false

def ofNumber : Number → Cell
  | .int n => .int n
  | .float x => .float x

-- Numbers and texts that read as numbers. Truth values are no numbers here.
def number? : Cell → Option Number
  | .int n => some (.int n)
  | .float x => some (.float x)
  | .text s => Literal.number? s.toList
  | _ => none

-- The number in a cell that holds one, as opposed to a text.
def plainNumber? : Cell → Option Number
  | .int n => some (.int n)
  | .float x => some (.float x)
  | _ => none

-- The unit that a value names.
def timeUnit? : Cell → Option TimeUnit
  | .unit u => some u
  | .text s => TimeUnit.ofText? s
  | _ => none

-- Whether a value counts as a yes where one is asked for.
def isTruthy : Cell → Bool
  | .null => false
  | .bool b => b
  | .int n => n ≠ 0
  | .float x => !x.isZero
  | .text s => !s.isEmpty
  | .list items => !items.isEmpty
  | .object fields => !fields.isEmpty
  | _ => true

end Cell

end TimePanel
