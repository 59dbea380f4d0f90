import TimePanel.Chart.Configuration
import TimePanel.Query.Context
import TimePanel.Schema.Moment

/-! The shapes of the requests that the service takes. -/

namespace TimePanel

open Schema

private abbrev Fields := List (String × Cell)

private def column : Cell → Checked ColumnDescriptor := ColumnDescriptor.ofCell .request

private def rowsField (fields : Fields) : Checked (List Row) :=
  field ["rows"] (list anyObject) fields

private def hintsField (fields : Fields) : Checked (Option (List ColumnDescriptor)) :=
  fieldOr none ["schema_hints"] (optional (list column)) fields

private def rangeField (fields : Fields) : Checked (Option Fields) :=
  fieldOr none ["time_range"] (optional anyObject) fields

private def textField (name : String) (fields : Fields) : Checked (Option String) :=
  fieldOr none [name] (optional text) fields

private def nowField (fields : Fields) : Checked (Option DateTime) :=
  fieldOr none ["now"] (optional moment) fields

structure InterpolateRequest where
  query : String
  timeColumn : Option String
  timeColumnSchema : Option ColumnDescriptor
  columns : List ColumnDescriptor
  timeRange : Option (List (String × Cell))
  timeZone : Option String
  maxPoints : Option Int
  now : Option DateTime
  isBlocking : Bool

def InterpolateRequest.ofCell (cell : Cell) : Checked InterpolateRequest :=
  (requestFields cell).bind fun fields =>
    (Checked.valid InterpolateRequest.mk)
      |>.apply (field ["query"] nonEmptyText fields)
      |>.apply (textField "time_column" fields)
      |>.apply (fieldOr none ["time_column_schema"] (optional column) fields)
      |>.apply (fieldOr [] ["columns"] (list column) fields)
      |>.apply (rangeField fields)
      |>.apply (textField "time_zone" fields)
      |>.apply (fieldOr none ["max_points"] (optional positiveInteger) fields)
      |>.apply (nowField fields)
      |>.apply (fieldOr false ["block_on_errors"] boolean fields)

structure ValidateRequest where
  query : String
  timeColumn : Option String
  timeRange : Option (List (String × Cell))
  now : Option DateTime

def ValidateRequest.ofCell (cell : Cell) : Checked ValidateRequest :=
  (requestFields cell).bind fun fields =>
    (Checked.valid ValidateRequest.mk)
      |>.apply (field ["query"] text fields)
      |>.apply (textField "time_column" fields)
      |>.apply (rangeField fields)
      |>.apply (nowField fields)

structure ResolveRequest where
  timeRange : Option (List (String × Cell))
  quickRange : Option String
  timeZone : Option String
  now : Option DateTime

def ResolveRequest.ofCell (cell : Cell) : Checked ResolveRequest :=
  (requestFields cell).bind fun fields =>
    (Checked.valid ResolveRequest.mk)
      |>.apply (rangeField fields)
      |>.apply (textField "quick_range" fields)
      |>.apply (textField "time_zone" fields)
      |>.apply (nowField fields)

-- Rows with what the schema declares about their columns.
structure AnalyzeRequest where
  rows : List Row
  hints : Option (List ColumnDescriptor)

def AnalyzeRequest.ofCell (cell : Cell) : Checked AnalyzeRequest :=
  (requestFields cell).bind fun fields =>
    (Checked.valid AnalyzeRequest.mk)
      |>.apply (rowsField fields)
      |>.apply (hintsField fields)

structure SynthesizeRequest where
  rows : List Row
  config : Option ChartConfiguration
  hints : Option (List ColumnDescriptor)
  theme : Option String
  colors : Option ThemeColors

def SynthesizeRequest.ofCell (env : Surroundings) (cell : Cell) : Checked SynthesizeRequest :=
  (requestFields cell).bind fun fields =>
    (Checked.valid SynthesizeRequest.mk)
      |>.apply (rowsField fields)
      |>.apply (fieldOr none ["config"] (optional (ChartConfiguration.ofCell env .request)) fields)
      |>.apply (hintsField fields)
      |>.apply (textField "theme" fields)
      |>.apply (fieldOr none ["theme_colors"] (optional (ThemeColors.ofCell .request)) fields)

end TimePanel
