import TimePanel.Schema.Record
import TimePanel.Text.Scan

/-! What a schema tells about a column, and which columns hold time by their name or type. -/

namespace TimePanel

-- Kinds of values, as far as charts tell them apart.
inductive SemanticType where
  | integer
  | bigint
  | float
  | boolean
  | date
  | datetime
  | time
  | string
deriving DecidableEq, Repr

namespace SemanticType

def name : SemanticType → String
  | .integer => "integer"
  | .bigint => "bigint"
  | .float => "float"
  | .boolean => "boolean"
  | .date => "date"
  | .datetime => "datetime"
  | .time => "time"
  | .string => "string"

def isNumeric : SemanticType → Bool
  | .integer | .bigint | .float => true
  | _ => false

def isTemporal : SemanticType → Bool
  | .date | .datetime | .time => true
  | _ => false

end SemanticType

-- Text in lower case, in which names and types are looked up.
def folded (text : String) : List Char := Text.lower text.toList

def mentions (text : List Char) (word : String) : Bool := Text.contains word.toList text

-- The kind of the values that a database type holds.
def SemanticType.ofDatabase (dataType : String) : SemanticType :=
  let type := folded dataType
  if mentions type "bigint" ∨ mentions type "long" then .bigint
  else if mentions type "int" then .integer
  else if ["float", "double", "decimal", "numeric", "real"].any (mentions type) then .float
  else if mentions type "bool" then .boolean
  else if mentions type "timestamp" ∨ mentions type "datetime" then .datetime
  else if mentions type "date" then .date
  else if mentions type "time" then .time
  else .string

-- Whether a column's name suggests that it holds time.
def isTimeName (column : String) : Bool :=
  let name := folded column
  ["__timestamp", "timestamp", "time", "created_at", "updated_at"].any (·.toList = name) ||
    mentions name "time" || mentions name "date"

structure ColumnDescriptor where
  name : String
  dataType : String
  unit : Option TimeUnit
  nullable : Option Bool
deriving DecidableEq, Repr

namespace ColumnDescriptor

open Schema

def ofFields (fields : List (String × Cell)) : Checked ColumnDescriptor :=
  (Checked.valid ColumnDescriptor.mk)
    |>.apply (field ["columnName", "column_name"] text fields)
    |>.apply (fieldOr "" ["dataType", "data_type"] text fields)
    |>.apply (fieldOr none ["timeUnit", "time_unit"] timeUnit fields)
    |>.apply (fieldOr none ["nullable"] (optional boolean) fields)

def ofCell (origin : Origin) (cell : Cell) : Checked ColumnDescriptor :=
  (fieldsOf origin .columnDescriptor cell).bind ofFields

def fields (column : ColumnDescriptor) : List (String × Cell) :=
  [("columnName", .text column.name), ("dataType", .text column.dataType),
   ("timeUnit", column.unit.elim .null .unit), ("nullable", column.nullable.elim .null .bool)]

def toRecord (column : ColumnDescriptor) : Cell := .record .columnDescriptor column.fields

-- Endings of names that columns of time have.
def timeEndings : List String :=
  ["_at", "_time", "_date", "_ts", "_ns", "_us", "_ms", "_s"]

-- Types that databases compare as dates.
def nativeTimeTypes : List String := ["timestamp", "datetime", "date"]

def hasNativeTimeType (dataType : String) : Bool :=
  nativeTimeTypes.any (mentions (folded dataType))

-- Whether the column looks temporal by its unit, its name or its type.
def isTemporal (column : ColumnDescriptor) : Bool :=
  column.unit.isSome || isTimeName column.name ||
    timeEndings.any (fun ending => Text.endsWith (folded column.name) ending.toList) ||
    hasNativeTimeType column.dataType

end ColumnDescriptor

end TimePanel
