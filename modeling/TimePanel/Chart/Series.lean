import TimePanel.Chart.Configuration
import TimePanel.Chart.Grouping
import TimePanel.Chart.Order
import TimePanel.Presets.Standard

/-! The series of a chart: what is drawn for each group of rows. -/

namespace TimePanel

-- One entry of a series: a value for the category at its place, or a point with its own x.
inductive Entry where
  | value (y : Option Number)
  | point (x : Cell) (y : Option Number)
deriving Repr

namespace Entry

private def number : Option Number → Cell
  | some n => .ofNumber n
  | none => .null

def toCell : Entry → Cell
  | .value y => number y
  | .point x y => .list [x, number y]

end Entry

-- How a series is drawn. A line is interrupted where values are missing, or says nothing of that.
inductive SeriesShape where
  | line (smooth interrupted : Bool)
  | area (smooth interrupted stacked : Bool)
  | bar (stacked : Bool)
deriving DecidableEq, Repr

structure Series where
  name : String
  color : String
  data : List Entry
  shape : SeriesShape
deriving Repr

namespace Series

private def colorField (value : String) : String × Cell := ("color", .text value)

-- Points are marked on lines with fewer than this many entries.
def maxMarked : Nat := 50

private def lineFields (series : Series) (smooth interrupted : Bool) : List (String × Cell) :=
  [("smooth", .bool smooth), ("show_symbol", .bool (series.data.length < maxMarked)),
   ("line_style", .object [colorField series.color, ("width", .int 2)])] ++
    if interrupted then [("connect_nulls", .bool false)] else []

private def stackFields (stacked : Bool) : List (String × Cell) :=
  if stacked then [("stack", .text "total")] else []

-- The colour to which an area fades out.
def fadedColor : String := "rgba(136, 132, 216, 0.1)"

private def stop (offset : Int) (value : String) : Cell :=
  .object [("offset", .int offset), colorField value]

private def tenths (count : Nat) : Cell := .float (.ofRat (mkRat count 10))

private def areaStyle (series : Series) : Cell :=
  .object
    [("color", .object
       [("type", .text "linear"), ("x", .int 0), ("y", .int 0), ("x2", .int 0), ("y2", .int 1),
        ("color_stops", .list [stop 0 series.color, stop 1 fadedColor])]),
     ("opacity", tenths 6)]

private def shapeFields (series : Series) : List (String × Cell) :=
  match series.shape with
  | .line smooth interrupted =>
    ("type", .text "line") :: series.lineFields smooth interrupted ++
      [("emphasis", .object [("focus", .text "series")])]
  | .area smooth interrupted stacked =>
    ("type", .text "line") :: series.lineFields smooth interrupted ++
      [("area_style", series.areaStyle),
       ("emphasis", .object
         [("focus", .text "series"), ("area_style", .object [("opacity", tenths 8)]),
          ("line_style", .object [("width", .int 3)])])] ++ stackFields stacked
  | .bar stacked => ("type", .text "bar") :: stackFields stacked

def toCell (series : Series) : Cell :=
  .object
    ([("name", .text series.name), ("data", .list (series.data.map Entry.toCell)),
      ("item_style", .object [colorField series.color])] ++ series.shapeFields)

-- Series in the colours of their places.
def colored (shape : SeriesShape) (groups : List (String × List Entry)) : List Series :=
  groups.zipIdx.map fun ((name, data), place) =>
    { name, color := Presets.seriesColor place, data, shape }

end Series

-- The y of a row, if it is a number.
def Row.number? (row : Row) (column : String) : Option Number := (row.get column).number?

-- Series together with the labels of the x axis, where it has labels.
structure Plot where
  series : List Series
  labels : Option (List String)
deriving Repr

namespace Plot

-- The labels of a column that are not missing, each once, in order.
def categories (rows : List PlacedRow) (column : String) : List String :=
  sortCategories
    (distinct ((rows.filter fun row => !(row.1.get column).isNull).map (·.1.label column)))

-- Along time every row is a point of its group.
def timeLine (shape : SeriesShape) (mapping : FieldMapping) (rows : List PlacedRow) : Plot :=
  let point (row : PlacedRow) : Entry := .point (row.1.get mapping.x) (row.1.number? mapping.y)
  let groups := groupRowsOr rows mapping.grouping mapping.y
  ⟨Series.colored shape (groups.map fun (name, members) => (name, members.map point)), none⟩

-- Every category takes the value of the first row of the group that has its label.
def groupedLine (shape : SeriesShape) (mapping : FieldMapping) (group : String)
    (rows : List PlacedRow) : Plot :=
  let labels := categories rows mapping.x
  let entry (members : List PlacedRow) (label : String) : Entry :=
    .value ((members.find? (·.1.label mapping.x = label)).bind (·.1.number? mapping.y))
  ⟨Series.colored shape ((groupRows rows group).map fun (name, members) =>
    (name, labels.map (entry members))), some labels⟩

-- Without groups every row is a category of its own.
def singleLine (shape : SeriesShape) (mapping : FieldMapping) (rows : List PlacedRow) : Plot :=
  ⟨Series.colored shape [(mapping.y, rows.map fun row => .value (row.1.number? mapping.y))],
    some (rows.map (·.1.label mapping.x))⟩

-- Lines and areas, whose shape depends on whether lines are interrupted.
def line (shape : Bool → SeriesShape) (mapping : FieldMapping) (temporal : Bool)
    (rows : List PlacedRow) : Plot :=
  if temporal then timeLine (shape false) mapping rows
  else
    match mapping.grouping with
    | some group => groupedLine (shape true) mapping group rows
    | none => singleLine (shape false) mapping rows

-- What a row adds to a bar; zeros and cells without a number add nothing.
def amount (row : Row) (column : String) : Number :=
  ((row.number? column).filter (!·.isZero)).getD (.int 0)

-- The sum of the rows that belong to a bar.
def barTotal (mapping : FieldMapping) (belongs : PlacedRow → Bool) (rows : List PlacedRow) :
    Except Fault Number :=
  Number.sum ((rows.filter belongs).map fun row => amount row.1 mapping.y)

-- One bar per key and group. Combinations without rows are zero.
def bars {κ : Type} (mapping : FieldMapping) (stacked : Bool) (keys : List κ)
    (belongs : κ → PlacedRow → Bool) (entry : κ → Number → Entry) (rows : List PlacedRow) :
    Except Fault (List Series) := do
  let groups ← (groupRowsOr rows mapping.grouping mapping.y).mapM fun (name, members) => do
    let data ← keys.mapM fun key => do
      return entry key (← barTotal mapping (belongs key) members)
    return (name, data)
  return Series.colored (.bar stacked) groups

-- Bars over labels.
def categoryBars (mapping : FieldMapping) (stacked : Bool) (rows : List PlacedRow) :
    Except Fault Plot := do
  let labels := categories rows mapping.x
  let series ← bars mapping stacked labels (fun label row => row.1.label mapping.x = label)
    (fun _ total => .value (some total)) rows
  return ⟨series, some labels⟩

-- Rows with the same x share a bar. A row whose x is not-a-number only shares it with itself.
def sharesBar (column : String) (a b : PlacedRow) : Bool :=
  (a.1.get column).same (b.1.get column) || a.2 = b.2

-- Bars over time. Lists and objects cannot be told apart, so they are no places of bars.
def timeBars (mapping : FieldMapping) (stacked : Bool) (rows : List PlacedRow) :
    Except Fault Plot := do
  if rows.all fun row => (row.1.get mapping.x).isScalar then
    let keys := distinctBy (sharesBar mapping.x)
      (rows.filter fun row => !(row.1.get mapping.x).isNull)
    let series ← bars mapping stacked keys (sharesBar mapping.x)
      (fun key total => .point (key.1.get mapping.x) (some total)) rows
    return ⟨series, none⟩
  else throw .unsuitableValue

-- The plot of sorted rows. Areas are stacked when they are grouped, unless told otherwise; bars
-- are only ever stacked when they are grouped.
def ofRows (config : ChartConfiguration) (rows : List Row) : Except Fault Plot :=
  let mapping := config.mapping
  let temporal := config.isTemporal
  let grouped := mapping.grouping.isSome
  let smooth := config.styling.smooth.getD false
  let rows := rows.zipIdx
  match config.kind with
  | .line => .ok (line (.line smooth ·) mapping temporal rows)
  | .area =>
    let stacked := config.styling.stack.getD grouped
    .ok (line (.area smooth · stacked) mapping temporal rows)
  | .bar =>
    let stacked := config.styling.stack.getD false && grouped
    if temporal then timeBars mapping stacked rows else categoryBars mapping stacked rows

end Plot

end TimePanel
