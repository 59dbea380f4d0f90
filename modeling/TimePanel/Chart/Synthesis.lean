import TimePanel.Chart.Analysis
import TimePanel.Chart.RenderSpec

/-! Charts from rows: drawing a configuration, choosing one, and saving and restoring it. -/

namespace TimePanel

namespace ChartConfiguration

-- Whether the cells of a column are written.
def isWritten (rows : List Row) (column : String) : Bool :=
  rows.all fun row => (row.get column).isWritable

-- Whether all cells are written whose text is a label or decides the order along the x axis.
def areLabelsWritten (config : ChartConfiguration) (rows : List Row) : Bool :=
  ((config.isTemporal && isNumericColumn config.mapping.x rows) ||
      isWritten rows config.mapping.x) &&
    config.mapping.grouping.all (isWritten rows)

-- The drawing of a configuration in a theme that is still to be read.
def renderSpecOf (env : Surroundings) (rows : List Row) (config : ChartConfiguration)
    (theme : Cell) : Except Fault RenderSpec := do
  let spec ← RenderSpec.ofRows env.dates rows config (← (ThemeColors.ofChoice theme).toExcept)
  if config.areLabelsWritten (← RenderSpec.preparedRows env.dates config rows) then return spec
  else throw .digitsExceeded

-- The configuration with a new drawing. There is none without rows or if drawing fails.
def synthesize (env : Surroundings) (rows : List Row) (config : ChartConfiguration)
    (theme : Cell) : ChartConfiguration :=
  if rows.isEmpty then { config with renderSpec := none }
  else
    { config with
      renderSpec := (renderSpecOf env rows config theme).toOption.map (·.fields)
      updatedAt := env.timestamp }

-- The columns to draw and the kind of chart for them: numbers over time, one number over another,
-- numbers by category, or a number alone.
def chooseMapping (fields : List FieldInfo) : FieldMapping × ChartKind :=
  let times := fields.filter (·.isTime)
  let numbers := fields.filter (·.isMeasurable)
  let categories := fields.filter (·.content = .categorical)
  match times, numbers, categories with
  | time :: _, number :: _, _ => (⟨time.name, number.name, none⟩, .line)
  | [], x :: y :: _, _ => (⟨x.name, y.name, none⟩, .line)
  | [], [number], category :: _ => (⟨category.name, number.name, none⟩, .bar)
  | [], [number], [] => (⟨"", number.name, none⟩, .bar)
  | _, [], _ => (.none, .line)

-- Time is formatted if the first time field is on the x axis.
def chooseFormatting (fields : List FieldInfo) (mapping : FieldMapping) : Option TimeFormatting :=
  match fields.find? (·.isTime) with
  | some time => if mapping.x = time.name then some ⟨true, time.unit⟩ else none
  | none => none

-- A new chart for fields about which nothing was chosen yet.
def ofFieldInfos (env : Surroundings) (fields : List FieldInfo) : ChartConfiguration :=
  let (mapping, kind) := chooseMapping fields
  { default env with
    kind, mapping, timeFormatting := chooseFormatting fields mapping }

-- A configuration as text, without its drawing and with its unit by name.
def save (env : Surroundings) (config : ChartConfiguration) : String :=
  env.format.write (config.savedFields fun unit => .text unit.name)

-- The configuration that a text holds, if it holds a valid one.
def restore? (env : Surroundings) (text : String) : Option ChartConfiguration :=
  (env.format.read? text).bind fun cell => (ofCell env .library cell).toOption

-- A restored configuration with a new drawing.
def importText? (env : Surroundings) (text : String) (rows : List Row) (theme : Cell) :
    Option ChartConfiguration :=
  (restore? env text).map fun config => config.synthesize env rows theme

end ChartConfiguration

-- A chart with what was found out about the columns that it is drawn from.
structure ChartBuild where
  fields : List FieldInfo
  config : ChartConfiguration
  -- whether the configuration was chosen, as opposed to given
  isAutomatic : Bool
deriving Repr

namespace ChartBuild

def isDrawable (build : ChartBuild) : Bool := build.config.renderSpec.isSome

def timeField? (build : ChartBuild) : Option FieldInfo := FieldInfo.pickTime? build.fields

-- The chart of rows, with a configuration that is given or else chosen.
def ofRows (env : Surroundings) (rows : List Row) (config : Cell)
    (hints : List ColumnDescriptor) (theme : Cell) : Except Fault ChartBuild := do
  let fields ← Analysis.fields env.settings env.dates rows hints
  let chosen ← match config with
    | .null => pure (ChartConfiguration.ofFieldInfos env fields)
    | cell => (ChartConfiguration.ofCell env .library cell).toExcept
  return ⟨fields, chosen.synthesize env rows theme, config.isNull⟩

def toFields (build : ChartBuild) : List (String × Cell) :=
  [("fields", .list (build.fields.map (·.toCell))), ("config", build.config.toRecord),
   ("auto_configured", .bool build.isAutomatic)]

end ChartBuild

end TimePanel
