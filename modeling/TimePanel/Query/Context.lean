import TimePanel.Column
import TimePanel.Settings

/-! What a query needs to be known besides its text. -/

namespace TimePanel

structure QueryContext where
  timeColumn : Option String
  timeColumnSchema : Option ColumnDescriptor
  columns : List ColumnDescriptor
  timeRange : Cell
  timeZone : String
  maxPoints : Int

namespace QueryContext

open Schema

-- The context of a query about which nothing is known.
def unknown (settings : Settings) : QueryContext :=
  { timeColumn := none, timeColumnSchema := none, columns := [], timeRange := .null,
    timeZone := settings.defaultTimeZone, maxPoints := settings.maxDataPoints }

def ofFields (settings : Settings) (fields : List (String × Cell)) : Checked QueryContext :=
  let absent := unknown settings
  (Checked.valid QueryContext.mk)
    |>.apply (fieldOr absent.timeColumn ["time_column"] (optional text) fields)
    |>.apply (fieldOr absent.timeColumnSchema ["time_column_schema"]
      (optional (ColumnDescriptor.ofCell .library)) fields)
    |>.apply (fieldOr absent.columns ["columns"] (list (ColumnDescriptor.ofCell .library)) fields)
    |>.apply (fieldOr absent.timeRange ["time_range"] .valid fields)
    |>.apply (fieldOr absent.timeZone ["time_zone"] text fields)
    |>.apply (fieldOr absent.maxPoints ["max_points"] positiveInteger fields)

def problemText (problem : Problem) : String :=
  let path := if problem.location.isEmpty then "context" else problem.path
  "Invalid context field '" ++ path ++ "': " ++ problem.message

-- A context checked before is taken as it is, whatever its number of points.
def ofRecord (settings : Settings) (fields : List (String × Cell)) :
    Checked QueryContext :=
  match fields.lookup "max_points" with
  | some (.int points) =>
    (ofFields settings (Row.set fields "max_points" (.int 1))).map fun context =>
      { context with maxPoints := points }
  | _ => ofFields settings fields

-- The context that a value gives, or the texts of what is wrong with it.
def ofCell (settings : Settings) (cell : Cell) : Except (List String) QueryContext :=
  let checked : Checked QueryContext := match cell with
    | .null => .valid (unknown settings)
    | .record .interpolationContext fields => ofRecord settings fields
    | cell => (Schema.fieldsOf .library .interpolationContext cell).bind (ofFields settings)
  match checked with
  | .valid context => .ok context
  | .invalid problems => .error (problems.map problemText)

def fields (context : QueryContext) : List (String × Cell) :=
  [("time_column", context.timeColumn.elim .null .text),
   ("time_column_schema", context.timeColumnSchema.elim .null (·.toRecord)),
   ("columns", .list (context.columns.map (·.toRecord))),
   ("time_range", context.timeRange),
   ("time_zone", .text context.timeZone),
   ("max_points", .int context.maxPoints)]

def toRecord (context : QueryContext) : Cell := .record .interpolationContext context.fields

-- The time column with what the schema tells about it: the column that is named, the one whose
-- schema is given, or the first temporal one of the table.
def timeColumnWithSchema (context : QueryContext) : Option String × Option ColumnDescriptor :=
  match context.timeColumn.filter (!·.isEmpty), context.timeColumnSchema with
  | some name, some schema => (some name, some schema)
  | some name, none => (some name, context.columns.find? (·.name = name))
  | none, some schema => (some schema.name, some schema)
  | none, none =>
    match context.columns.find? (·.isTemporal) with
    | some column => (some column.name, context.columns.find? (·.name = column.name))
    | none => (none, none)

end QueryContext

end TimePanel
