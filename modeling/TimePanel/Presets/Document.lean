import TimePanel.Cell.Text
import TimePanel.Fault

/-! Documents that define presets. What they hold is taken as it is, and defaults fill the gaps. -/

namespace TimePanel

-- A range as a document gives it.
structure RangeEntry where
  display : Cell
  start : Cell
  finish : Cell
  enabled : Cell

structure PresetDocument where
  version : Cell
  defaultRange : RangeEntry
  noTimeFilter : RangeEntry
  quickRanges : List RangeEntry
  seriesColors : List Cell
  themes : List (String × List (String × Cell))

private def objectFields : Cell → Except Fault (List (String × Cell))
  | .object fields => .ok fields
  | _ => .error .missingOperation

-- The items of a list, the characters of a text or the keys of an object.
def Cell.iterate : Cell → Except Fault (List Cell)
  | .list items => .ok items
  | .text s => .ok (s.toList.map fun c => .text c.toString)
  | .object fields => .ok (fields.map fun (key, _) => .text key)
  | _ => .error .unsuitableValue

-- A value that does not count as a no, or else what stands in for it.
private def orElse (cell : Option Cell) (fallback : Cell) : Cell :=
  match cell with
  | some cell => if cell.isTruthy then cell else fallback
  | none => fallback

namespace RangeEntry

def ofCell (cell : Cell) : Except Fault RangeEntry := do
  let fields ← objectFields cell
  let value (name : String) (default : Cell) : Cell := (fields.lookup name).getD default
  return ⟨value "display" (.text ""), value "from" (.text ""), value "to" (.text ""),
    value "enabled" (.bool true)⟩

def toCell (entry : RangeEntry) : Cell :=
  .object [("display", entry.display), ("from", entry.start), ("to", entry.finish),
    ("enabled", entry.enabled)]

end RangeEntry

namespace PresetDocument

-- A key with its value, from an item of two parts.
private def pairOf (place : Nat) (item : Cell) : Except Fault (String × Cell) := do
  match ← item.iterate with
  | [key, value] => return (key.label, value)
  | parts => throw (.unevenPair place parts.length)

private def pairsFrom (place : Nat) : List Cell → Except Fault (List (String × Cell))
  | [] => .ok []
  | item :: rest => do return (← pairOf place item) :: (← pairsFrom (place + 1) rest)

-- Colours by name: an object, or a list of pairs in which the last of equal names counts.
def colours : Cell → Except Fault (List (String × Cell))
  | .object fields => .ok fields
  | cell => do
    let pairs ← pairsFrom 0 (← cell.iterate)
    return pairs.foldl (fun row (key, value) => Row.set row key value) []

def ofCell (cell : Cell) : Except Fault PresetDocument := do
  let fields ← objectFields cell
  let version := (fields.lookup "version").getD (.int 1)
  let defaultRange ← RangeEntry.ofCell (orElse (fields.lookup "default_time_range") (.object []))
  let noTimeFilter ← RangeEntry.ofCell
    (orElse (fields.lookup "no_time_filter") (.object [("enabled", .bool false)]))
  let entries ← ((fields.lookup "quick_ranges").getD (.list [])).iterate
  let quickRanges ← entries.mapM RangeEntry.ofCell
  let seriesColors ← (orElse (fields.lookup "series_colors") (.list [])).iterate
  let themes ← objectFields (orElse (fields.lookup "themes") (.object []))
  let themes ← themes.mapM fun (name, theme) => do return (name, ← colours theme)
  return { version, defaultRange, noTimeFilter, quickRanges, seriesColors, themes }

def toCell (document : PresetDocument) : Cell :=
  .object
    [("version", document.version),
     ("default_time_range", document.defaultRange.toCell),
     ("no_time_filter", document.noTimeFilter.toCell),
     ("quick_ranges", .list (document.quickRanges.map (·.toCell))),
     ("series_colors", .list document.seriesColors),
     ("themes", .object (document.themes.map fun (name, theme) => (name, .object theme)))]

end PresetDocument

end TimePanel
