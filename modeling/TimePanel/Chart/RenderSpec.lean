import TimePanel.Chart.Coercion
import TimePanel.Chart.Series

/-! The full description of a drawing, made from rows, a configuration and a theme. -/

namespace TimePanel

structure RenderSpec where
  kind : ChartKind
  title : String
  xName : String
  yName : String
  showLegend : Bool
  showGrid : Bool
  theme : ThemeColors
  plot : Plot
deriving Repr

namespace RenderSpec

private def color (value : String) : String × Cell := ("color", .text value)

-- Labels are turned as soon as one of them is longer than this.
def longestLevelLabel : Nat := 10

private def axisFields (spec : RenderSpec) (labelFields : List (String × Cell)) :
    List (String × Cell) :=
  [("axis_label", .object (color spec.theme.axis :: labelFields)),
   ("axis_line", .object [("line_style", .object [color spec.theme.axis])]),
   ("split_line", .object
     [("show", .bool spec.showGrid), ("line_style", .object [color spec.theme.grid])])]

private def xAxis (spec : RenderSpec) : Cell :=
  let named (type : String) : List (String × Cell) :=
    [("type", .text type), ("name", .text spec.xName)]
  .object (match spec.plot.labels with
    | some labels =>
      let turned := labels.any fun label => longestLevelLabel < label.length
      named "categorical" ++ [("data", .list (labels.map .text))] ++
        spec.axisFields [("rotate", .int (if turned then 45 else 0))] ++
        [("boundary_gap", .bool true)]
    | none =>
      named "temporal" ++ spec.axisFields [] ++
        [("boundary_gap", .bool (spec.kind = .bar))])

private def yAxis (spec : RenderSpec) : Cell :=
  .object ([("type", .text "value"), ("name", .text spec.yName)] ++ spec.axisFields [])

private def grid (spec : RenderSpec) : Cell :=
  .object
    [("left", .text "10%"), ("right", .text "10%"), ("top", .text "15%"),
     ("bottom", .text "15%"), ("show", .bool spec.showGrid)]

private def textStyle (value : String) : String × Cell := ("text_style", .object [color value])

def fields (spec : RenderSpec) : List (String × Cell) :=
  [("title", .object [("text", .text spec.title), textStyle spec.theme.text]),
   ("tooltip", .object
     [("trigger", .text "axis"), ("background_color", .text spec.theme.tooltipBackground),
      textStyle spec.theme.tooltipText]),
   ("legend", .object [("show", .bool spec.showLegend), textStyle spec.theme.text]),
   ("x_axis", spec.xAxis),
   ("y_axis", spec.yAxis),
   ("series", .list (spec.plot.series.map (·.toCell))),
   ("grid", spec.grid),
   ("background_color", .text spec.theme.chartBackground)]

-- The columns that a mapping names have to be there in some row.
def checkMapping (rows : List Row) (kind : ChartKind) (mapping : FieldMapping) :
    Except Fault Unit :=
  if mapping.x.isEmpty ∨ mapping.y.isEmpty then .error (.axesMissing kind.name)
  else
    match ([mapping.x, mapping.y] ++ mapping.grouping.toList).find? fun name =>
        !rows.any (·.has name) with
    | some name => .error (.fieldAbsent name)
    | none => .ok ()

-- The rows in the order in which they are drawn, with their x coerced if it is time.
def preparedRows (dates : DateReader) (config : ChartConfiguration) (rows : List Row) :
    Except Fault (List Row) := do
  let column := config.mapping.x
  let rows ← if config.isTemporal then rows.mapM (Row.coerceTime dates column) else pure rows
  return sortRows rows column

def ofRows (dates : DateReader) (rows : List Row) (config : ChartConfiguration)
    (theme : ThemeColors) : Except Fault RenderSpec := do
  checkMapping rows config.kind config.mapping
  let plot ← Plot.ofRows config (← preparedRows dates config rows)
  return {
    kind := config.kind
    title := if config.title.isEmpty then config.kind.title else config.title
    xName := config.mapping.x
    yName := config.mapping.y
    showLegend := config.mapping.grouping.isSome && config.styling.showLegend
    showGrid := config.styling.showGrid
    theme, plot }

end RenderSpec

end TimePanel
