import TimePanel.Schema.Record

/-! The colours of a chart. -/

namespace TimePanel

structure ThemeColors where
  text : String
  axis : String
  grid : String
  tooltipBackground : String
  tooltipText : String
  chartBackground : String
deriving DecidableEq, Repr

namespace ThemeColors

def light : ThemeColors :=
  { text := "hsl(240 10% 3.9%)", axis := "hsl(240 3.8% 46.1%)",
    grid := "hsl(240 3.8% 46.1% / 0.15)", tooltipBackground := "hsl(0 0% 100%)",
    tooltipText := "hsl(240 10% 3.9%)", chartBackground := "transparent" }

def dark : ThemeColors :=
  { text := "hsl(0 0% 98%)", axis := "hsl(240 5% 64.9%)",
    grid := "hsl(240 5% 64.9% / 0.15)", tooltipBackground := "hsl(240 10% 3.9%)",
    tooltipText := "hsl(0 0% 98%)", chartBackground := "transparent" }

-- A theme by name. Unknown names mean the light one.
def named (name : String) : ThemeColors := if name = "dark" then dark else light

def fields (theme : ThemeColors) : List (String × Cell) :=
  [("textColor", .text theme.text), ("axisColor", .text theme.axis),
   ("gridColor", .text theme.grid),
   ("tooltipBackgroundColor", .text theme.tooltipBackground),
   ("tooltipTextColor", .text theme.tooltipText),
   ("chartBackgroundColor", .text theme.chartBackground)]

def toRecord (theme : ThemeColors) : Cell := .record .themeColors theme.fields

-- The colours under the names that preset files use.
def presetFields (theme : ThemeColors) : List (String × Cell) :=
  [("text_color", .text theme.text), ("axis_color", .text theme.axis),
   ("grid_color", .text theme.grid),
   ("tooltip_background_color", .text theme.tooltipBackground),
   ("tooltip_text_color", .text theme.tooltipText),
   ("chart_background_color", .text theme.chartBackground)]

open Schema

-- Colours that are not given are those of the light theme.
def ofFields (fields : List (String × Cell)) : Checked ThemeColors :=
  (Checked.valid ThemeColors.mk)
    |>.apply (fieldOr light.text ["textColor", "text_color"] Schema.text fields)
    |>.apply (fieldOr light.axis ["axisColor", "axis_color"] Schema.text fields)
    |>.apply (fieldOr light.grid ["gridColor", "grid_color"] Schema.text fields)
    |>.apply (fieldOr light.tooltipBackground
      ["tooltipBackgroundColor", "tooltip_background_color"] Schema.text fields)
    |>.apply (fieldOr light.tooltipText ["tooltipTextColor", "tooltip_text_color"] Schema.text
      fields)
    |>.apply (fieldOr light.chartBackground ["chartBackgroundColor", "chart_background_color"]
      Schema.text fields)

def ofCell (origin : Origin) (cell : Cell) : Checked ThemeColors :=
  (fieldsOf origin .themeColors cell).bind ofFields

-- The theme that a value asks for: one by name, or single colours. Anything else means the light
-- one.
def ofChoice : Cell → Checked ThemeColors
  | .text name => .valid (named name)
  | .unit unit => .valid (named unit.name)
  | .object fields => ofFields fields
  | .record .themeColors fields => ofFields fields
  | _ => .valid light

end ThemeColors

end TimePanel
