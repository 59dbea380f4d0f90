import TimePanel.Chart.Theme
import TimePanel.Surroundings

/-! Configurations of charts: what is drawn, from which columns, and in which manner. -/

namespace TimePanel

open Schema

inductive ChartKind where
  | line
  | bar
  | area
deriving DecidableEq, Repr

namespace ChartKind

def name : ChartKind → String
  | .line => "line"
  | .bar => "bar"
  | .area => "area"

def all : List ChartKind := [.line, .bar, .area]

def ofCell (format : RecordFormat) (cell : Cell) : Checked ChartKind :=
  (format.choice (all.map name) cell).map fun place => all[place]

-- The title of a chart that has none of its own.
def title : ChartKind → String
  | .line => "Line Chart"
  | .bar => "Bar Chart"
  | .area => "Area Chart"

end ChartKind

-- Which columns are drawn. An empty name stands for none.
structure FieldMapping where
  x : String
  y : String
  group : Option String
deriving DecidableEq, Repr

namespace FieldMapping

def none : FieldMapping := ⟨"", "", .none⟩

def ofFields (format : RecordFormat) (fields : List (String × Cell)) : Checked FieldMapping :=
  (Checked.valid FieldMapping.mk)
    |>.apply (fieldOr none.x ["xAxis", "x_axis"] format.text fields)
    |>.apply (fieldOr none.y ["yAxis", "y_axis"] format.text fields)
    |>.apply (fieldOr none.group ["groupBy", "group_by"] (optional format.text) fields)

def ofCell (format : RecordFormat) (origin : Origin) (cell : Cell) : Checked FieldMapping :=
  (fieldsOf origin .fieldMapping cell).bind (ofFields format)

def fields (mapping : FieldMapping) : List (String × Cell) :=
  [("xAxis", .text mapping.x), ("yAxis", .text mapping.y),
   ("groupBy", mapping.group.elim .null .text)]

-- The column that rows are grouped by.
def grouping (mapping : FieldMapping) : Option String := mapping.group.filter (!·.isEmpty)

end FieldMapping

structure Styling where
  showLegend : Bool
  showGrid : Bool
  smooth : Option Bool
  stack : Option Bool
deriving DecidableEq, Repr

namespace Styling

def default : Styling := ⟨true, true, none, none⟩

def ofFields (format : RecordFormat) (fields : List (String × Cell)) : Checked Styling :=
  (Checked.valid Styling.mk)
    |>.apply (fieldOr default.showLegend ["showLegend", "show_legend"] format.boolean fields)
    |>.apply (fieldOr default.showGrid ["showGrid", "show_grid"] format.boolean fields)
    |>.apply (fieldOr default.smooth ["smooth"] (optional format.boolean) fields)
    |>.apply (fieldOr default.stack ["stack"] (optional format.boolean) fields)

def ofCell (format : RecordFormat) (origin : Origin) (cell : Cell) : Checked Styling :=
  (fieldsOf origin .styling cell).bind (ofFields format)

def fields (styling : Styling) : List (String × Cell) :=
  [("showLegend", .bool styling.showLegend), ("showGrid", .bool styling.showGrid),
   ("smooth", styling.smooth.elim .null .bool), ("stack", styling.stack.elim .null .bool)]

end Styling

-- Whether the x axis shows time, and the unit in which it was counted.
structure TimeFormatting where
  enabled : Bool
  sourceUnit : Option TimeUnit
deriving DecidableEq, Repr

namespace TimeFormatting

def ofFields (format : RecordFormat) (fields : List (String × Cell)) : Checked TimeFormatting :=
  (Checked.valid TimeFormatting.mk)
    |>.apply (fieldOr false ["enabled"] format.boolean fields)
    |>.apply (fieldOr none ["sourceTimeUnit", "source_time_unit"] timeUnit fields)

def ofCell (format : RecordFormat) (origin : Origin) (cell : Cell) : Checked TimeFormatting :=
  (fieldsOf origin .timeFormatting cell).bind (ofFields format)

-- The fields, with the unit put as it is to stand there.
def fieldsWith (unitCell : TimeUnit → Cell) (formatting : TimeFormatting) :
    List (String × Cell) :=
  [("enabled", .bool formatting.enabled),
   ("sourceTimeUnit", formatting.sourceUnit.elim .null unitCell)]

def fields (formatting : TimeFormatting) : List (String × Cell) := formatting.fieldsWith .unit

end TimeFormatting

-- What a user chooses about a chart, with the drawing that was last made of it.
structure ChartConfiguration where
  id : String
  title : String
  kind : ChartKind
  mapping : FieldMapping
  styling : Styling
  timeFormatting : Option TimeFormatting
  renderSpec : Option (List (String × Cell))
  createdAt : String
  updatedAt : String
deriving Repr

namespace ChartConfiguration

-- A new chart.
def default (env : Surroundings) : ChartConfiguration :=
  { id := env.chartId, title := "Chart", kind := .line, mapping := .none, styling := .default,
    timeFormatting := none, renderSpec := none, createdAt := env.timestamp,
    updatedAt := env.timestamp }

def ofFields (env : Surroundings) (origin : Origin) (fields : List (String × Cell)) :
    Checked ChartConfiguration :=
  let new := default env
  (Checked.valid ChartConfiguration.mk)
    |>.apply (fieldOr new.id ["id"] env.format.text fields)
    |>.apply (fieldOr new.title ["title"] env.format.text fields)
    |>.apply (fieldOr new.kind ["chartKind", "chart_kind"] (ChartKind.ofCell env.format) fields)
    |>.apply (fieldOr new.mapping ["fieldMapping", "field_mapping"]
      (FieldMapping.ofCell env.format origin) fields)
    |>.apply (fieldOr new.styling ["styling"] (Styling.ofCell env.format origin) fields)
    |>.apply (fieldOr new.timeFormatting ["timeFormatting", "time_formatting"]
      (optional (TimeFormatting.ofCell env.format origin)) fields)
    |>.apply (fieldOr new.renderSpec ["renderSpec", "render_spec"] (optional anyObject) fields)
    |>.apply (fieldOr new.createdAt ["createdAt", "created_at"] env.format.text fields)
    |>.apply (fieldOr new.updatedAt ["updatedAt", "updated_at"] env.format.text fields)

def ofCell (env : Surroundings) (origin : Origin) (cell : Cell) : Checked ChartConfiguration :=
  (fieldsOf origin .chartConfiguration cell).bind (ofFields env origin)

-- What is kept of a configuration outside of the program: everything but the drawing. A unit is
-- put as it is to stand there.
def savedFields (unitCell : TimeUnit → Cell) (config : ChartConfiguration) :
    List (String × Cell) :=
  [("id", .text config.id), ("title", .text config.title),
   ("chartKind", .text config.kind.name),
   ("fieldMapping", .object config.mapping.fields),
   ("styling", .object config.styling.fields),
   ("timeFormatting", config.timeFormatting.elim .null fun formatting =>
      .object (formatting.fieldsWith unitCell)),
   ("createdAt", .text config.createdAt), ("updatedAt", .text config.updatedAt)]

def fields (config : ChartConfiguration) : List (String × Cell) :=
  config.savedFields .unit ++ [("renderSpec", config.renderSpec.elim .null .object)]

def toRecord (config : ChartConfiguration) : Cell := .record .chartConfiguration config.fields

-- Whether the x axis shows time.
def isTemporal (config : ChartConfiguration) : Bool := config.timeFormatting.any (·.enabled)

end ChartConfiguration

end TimePanel
