import TimePanel.Chart.Theme
import TimePanel.Text.Case

/-! The ranges and colours that are offered out of the box. -/

namespace TimePanel

-- A range of time with the name that it is offered under.
structure QuickRange where
  display : String
  start : String
  finish : String
  enabled : Bool
deriving DecidableEq, Repr

namespace QuickRange

def fields (range : QuickRange) : List (String × Cell) :=
  [("display", .text range.display), ("from", .text range.start), ("to", .text range.finish),
   ("enabled", .bool range.enabled)]

def toCell (range : QuickRange) : Cell := .object range.fields

end QuickRange

namespace Presets

def version : Int := 1

def defaultRange : QuickRange := ⟨"Last 1 hour", "now-1h", "now", true⟩

def noTimeFilter : QuickRange := ⟨"No time filter", "", "", false⟩

def quickRanges : List QuickRange :=
  [⟨"Last 5 minutes", "now-5m", "now", true⟩,
   ⟨"Last 15 minutes", "now-15m", "now", true⟩,
   ⟨"Last 30 minutes", "now-30m", "now", true⟩,
   ⟨"Last 1 hour", "now-1h", "now", true⟩,
   ⟨"Last 3 hours", "now-3h", "now", true⟩,
   ⟨"Last 6 hours", "now-6h", "now", true⟩,
   ⟨"Last 12 hours", "now-12h", "now", true⟩,
   ⟨"Last 24 hours", "now-24h", "now", true⟩,
   ⟨"Last 2 days", "now-2d", "now", true⟩,
   ⟨"Last 7 days", "now-7d", "now", true⟩,
   ⟨"Last 30 days", "now-30d", "now", true⟩,
   ⟨"Last 90 days", "now-90d", "now", true⟩,
   ⟨"Last 6 months", "now-6M", "now", true⟩,
   ⟨"Last 1 year", "now-1y", "now", true⟩,
   ⟨"Today", "now/d", "now", true⟩,
   ⟨"Yesterday", "now-1d/d", "now/d", true⟩,
   ⟨"This week", "now/w", "now", true⟩,
   ⟨"Previous week", "now-1w/w", "now/w", true⟩,
   ⟨"This month", "now/M", "now", true⟩,
   ⟨"Previous month", "now-1M/M", "now/M", true⟩,
   ⟨"This year", "now/y", "now", true⟩,
   ⟨"Previous year", "now-1y/y", "now/y", true⟩]

-- The quick range of a name, where case does not matter.
def quickRange? (display : String) : Option QuickRange :=
  quickRanges.find? fun range => Text.lower range.display.toList = Text.lower display.toList

def seriesColors : List String :=
  ["#3b82f6", "#ef4444", "#10b981", "#f59e0b", "#8b5cf6", "#06b6d4", "#84cc16", "#f97316"]

-- The colour of a series by its place; after the last colour the first follows.
def seriesColor (place : Nat) : String :=
  seriesColors[place % seriesColors.length]?.getD "#3b82f6"

def themes : List (String × ThemeColors) := [("light", .light), ("dark", .dark)]

def toCell : Cell :=
  .object
    [("version", .int version),
     ("default_time_range", defaultRange.toCell),
     ("no_time_filter", noTimeFilter.toCell),
     ("quick_ranges", .list (quickRanges.map (·.toCell))),
     ("series_colors", .list (seriesColors.map .text)),
     ("themes", .object (themes.map fun (name, theme) => (name, .object theme.presetFields)))]

end Presets

end TimePanel
