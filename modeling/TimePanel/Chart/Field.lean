import TimePanel.Column

/-! What is known about a column of a result once its cells have been looked at. -/

namespace TimePanel

inductive FieldRole where
  | measure
  | dimension
deriving DecidableEq, Repr

inductive ContentType where
  | numeric
  | categorical
  | temporal
  | text
deriving DecidableEq, Repr

def FieldRole.name : FieldRole → String
  | .measure => "measure"
  | .dimension => "dimension"

def ContentType.name : ContentType → String
  | .numeric => "numeric"
  | .categorical => "categorical"
  | .temporal => "temporal"
  | .text => "text"

structure FieldInfo where
  name : String
  semantic : SemanticType
  role : FieldRole
  content : ContentType
  isTime : Bool
  unit : Option TimeUnit
  -- the number of different values
  cardinality : Nat
  -- the type that the schema gives
  declaredType : Option String
deriving DecidableEq, Repr

namespace FieldInfo

def fields (field : FieldInfo) : List (String × Cell) :=
  [("name", .text field.name), ("semantic_type", .text field.semantic.name),
   ("role", .text field.role.name), ("content_type", .text field.content.name),
   ("is_time_field", .bool field.isTime),
   ("time_unit", field.unit.elim .null fun unit => .text unit.name),
   ("cardinality", .int field.cardinality),
   ("original_type", field.declaredType.elim .null .text)]

def toCell (field : FieldInfo) : Cell := .object field.fields

-- A number that is not taken for time.
def isMeasurable (field : FieldInfo) : Bool := field.semantic.isNumeric && !field.isTime

-- The field that is shown as time: `__timestamp` in any case, or else the first time field.
def pickTime? (fields : List FieldInfo) : Option FieldInfo :=
  let times := fields.filter (·.isTime)
  times.find? (fun field => folded field.name = "__timestamp".toList) <|> times.head?

end FieldInfo

end TimePanel
