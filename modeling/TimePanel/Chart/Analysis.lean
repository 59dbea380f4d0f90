import TimePanel.Cell.Identity
import TimePanel.Chart.Field
import TimePanel.Surroundings

/-! Classifying the columns of a result by what the schema declares, by their names and by a sample
of their cells. -/

namespace TimePanel

-- What decides how a column is shown.
structure Classification where
  semantic : SemanticType
  isTime : Bool
  unit : Option TimeUnit
deriving DecidableEq, Repr

namespace Analysis

-- The names of all columns in order of appearance.
def columnNames (rows : List Row) : List String :=
  distinct (rows.flatMap fun row => row.map (·.1))

-- Whether a cell holds a date or a time, or a text that reads as one. Words alone, such as names of
-- months, do not count.
def looksLikeDate (dates : DateReader) : Cell → Except Fault Bool
  | .dateTime _ | .date _ | .time _ => .ok true
  | .text s =>
    let text := Text.strip s.toList
    if text.any Text.isDigit then
      match dates.free text with
      | .ok _ => .ok true
      | .error fault => if fault.isOfValue then .ok false else .error fault
    else .ok false
  | _ => .ok false

-- The first `size` items; a negative size counts from the end.
def sample (size : Int) (cells : List Cell) : List Cell :=
  if 0 ≤ size then cells.take size.toNat else cells.take (cells.length - size.natAbs)

-- Whether any number has a fraction, looked at one after the other as floats.
def anyFraction : List Number → Except Fault Bool
  | [] => .ok false
  | n :: rest => do if (← n.toFloat).isWhole then anyFraction rest else return true

-- The unit of numbers some of which may count time since 1970.
def epochUnit? (numbers : List Number) : Except Fault (Option TimeUnit) :=
  if numbers.any Epoch.isPlausible then (Epoch.unitOfAll numbers).map some else .ok none

-- A declared whole number with a temporal name has to hold numbers that may count time, unless its
-- unit is declared. Other columns are temporal by their unit, their name or their type.
def classifyDeclared (column : ColumnDescriptor) (numbers : List Number) :
    Except Fault Classification := do
  let semantic := SemanticType.ofDatabase column.dataType
  let named := isTimeName column.name
  if (semantic = .integer ∨ semantic = .bigint) ∧ named then
    match ← epochUnit? numbers with
    | some inferred => return ⟨semantic, true, column.unit <|> some inferred⟩
    | none => return ⟨semantic, column.unit.isSome, column.unit⟩
  else return ⟨semantic, column.unit.isSome || named || semantic.isTemporal, column.unit⟩

-- Numbers throughout. They count time if the name or the size of any of them says so.
def classifyNumbers (name : String) (numbers : List Number) :
    Except Fault Classification := do
  let semantic := if ← anyFraction numbers then .float else .integer
  if isTimeName name ∨ numbers.any Epoch.isPlausible then
    return ⟨semantic, true, some (← Epoch.unitOfAll numbers)⟩
  else return ⟨semantic, false, none⟩

-- Whether the dates among the cells reach the share that makes a column temporal.
def mostlyDates (settings : Settings) (dates : DateReader) (cells : List Cell) :
    Except Fault Bool := do
  let found ← cells.mapM (looksLikeDate dates)
  return (Number.float (settings.dateRatioThreshold.scale cells.length)).le
    (.int (found.count true))

def classifyUndeclared (settings : Settings) (dates : DateReader) (name : String)
    (cells : List Cell) : Except Fault Classification := do
  let numbers := cells.filterMap Cell.number?
  if numbers.length = cells.length then classifyNumbers name numbers
  else if cells.all Cell.isBool then return ⟨.boolean, false, none⟩
  else if (← mostlyDates settings dates cells) ∨ isTimeName name then
    return ⟨.datetime, true, none⟩
  else return ⟨.string, false, none⟩

-- How a column is shown. Values that repeat are categories: on average more than twice in the
-- sample.
def shown (kind : Classification) (cells : List Cell) :
    Except Fault (FieldRole × ContentType) := do
  if kind.isTime then return (.dimension, .temporal)
  else if kind.semantic.isNumeric then return (.measure, .numeric)
  else if 2 * (← Cell.countDistinct cells) < cells.length then return (.dimension, .categorical)
  else return (.dimension, .text)

-- A column without any value is known by its declaration alone.
def emptyField (name : String) (hint : Option ColumnDescriptor) : FieldInfo :=
  let semantic := hint.elim .string fun column => SemanticType.ofDatabase column.dataType
  let isTime := hint.any fun column => column.unit.isSome || semantic.isTemporal
  { name, semantic, role := .dimension, content := if isTime then .temporal else .categorical,
    isTime, unit := hint.bind (·.unit), cardinality := 0,
    declaredType := hint.map (·.dataType) }

-- The field that a column with the given values makes.
def fieldOf (settings : Settings) (dates : DateReader) (name : String) (values : List Cell)
    (hint : Option ColumnDescriptor) : Except Fault FieldInfo := do
  let present := values.filter (!·.isNull)
  if present.isEmpty then return emptyField name hint
  let cells := sample settings.sampleSize present
  let kind ← match hint with
    | some column => classifyDeclared column (cells.filterMap Cell.number?)
    | none => classifyUndeclared settings dates name cells
  let (role, content) ← shown kind cells
  let cardinality ← Cell.countDistinct present
  return { name, semantic := kind.semantic, role, content, isTime := kind.isTime,
           unit := kind.unit, cardinality, declaredType := hint.map (·.dataType) }

-- What the schema declares about a column; the last declaration counts.
def hint? (hints : List ColumnDescriptor) (name : String) : Option ColumnDescriptor :=
  hints.reverse.find? (·.name = name)

-- The fields of all columns.
def fields (settings : Settings) (dates : DateReader) (rows : List Row)
    (hints : List ColumnDescriptor) : Except Fault (List FieldInfo) :=
  (columnNames rows).mapM fun name =>
    fieldOf settings dates name (rows.map (·.get name)) (hint? hints name)

end Analysis

end TimePanel
