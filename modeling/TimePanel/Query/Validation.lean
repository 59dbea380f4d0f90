import TimePanel.Query.Macro
import TimePanel.TimeRange.Bounds

/-! What would keep the macros of a query from being replaced. -/

namespace TimePanel

namespace QueryValidation

open Text

-- Any name that looks like a macro, which becomes a blank.
def recogniseMacroName : Recogniser := fun _ text => do
  let (name, rest) := (← after? "$__".toList text).span isWord
  if name.isEmpty then none else some ⟨text.length - rest.length, [' ']⟩

def recogniseTimeColumn : Recogniser := fun before text =>
  if before.any fun c => isWord c || c = '.' then none
  else
    ["__timestamp", "timestamp", "time"].findSome? fun name => do
      let rest ← afterFolded? name.toList text
      if atBoundary (text.take (text.length - rest.length)).getLast? rest then
        some ⟨text.length - rest.length, []⟩
      else none

-- Whether a query names a time column itself, outside of macros.
def mentionsTimeColumn (query : List Char) : Bool :=
  occurs recogniseTimeColumn (replaceAll recogniseMacroName query)

def messageIf (condition : Bool) (message : String) : List String :=
  if condition then [message] else []

-- What is wrong with the macros, given only whether a column and a range are there.
def macroErrors (query : List Char) (hasColumn hasRange : Bool) : List String :=
  let usesFilter := TimeMacro.filter.standsIn query
  let usesEnds := TimeMacro.start.standsIn query || TimeMacro.finish.standsIn query
  messageIf (usesFilter && !hasColumn && !mentionsTimeColumn query)
      "$__timeFilter requires a time field." ++
    messageIf (usesFilter && !hasRange) "$__timeFilter requires a time range." ++
    messageIf (TimeMacro.field.standsIn query && !hasColumn)
      "$__timeField requires a time field to be selected." ++
    messageIf (usesEnds && !hasRange) "$__timeFrom/$__timeTo require a time range."

-- What is wrong with the ends of a range.
def endpointErrors (descriptor : RangeDescriptor) (ends : Option Instant × Option Instant) :
    List String :=
  messageIf ends.1.isNone
      ("Time range 'from' could not be parsed: " ++ descriptor.start.toCell.quoted ++ ".") ++
    messageIf ends.2.isNone
      ("Time range 'to' could not be parsed: " ++ descriptor.finish.toCell.quoted ++ ".") ++
    match ends with
    | (some start, some finish) =>
      messageIf (finish.ns ≤ start.ns) "Time range 'from' must precede 'to'."
    | _ => []

-- What is wrong with a range.
def rangeErrors (dates : DateReader) (now : Instant) (zone : Zone) (range : Cell) :
    Except Fault (List String) :=
  match RangeDescriptor.ofCell range with
  | none => .ok ["Time range descriptor is not a recognised shape."]
  | some descriptor =>
    if descriptor.isDisabled then
      .ok ["Query contains time variables but the time range must be enabled."]
    else if descriptor.start.isEmpty ∨ descriptor.finish.isEmpty then
      .ok ["Query contains time variables but the time range is incomplete."]
    else (descriptor.endpoints dates now zone).map (endpointErrors descriptor)

-- The problems of a query. One without macros has none. Ranges are looked at in the default zone.
def errors (env : Surroundings) (query : Cell) (timeColumn : Option String) (range : Cell)
    (now : Instant) : Except Fault (List String) :=
  match query with
  | .text text =>
    let query := text.toList
    if !TimeMacro.anyIn query then .ok []
    else do
      let fromMacros :=
        macroErrors query (timeColumn.any (!·.isEmpty)) (!range.isNull)
      let fromRange ←
        if range.isNull then pure [] else rangeErrors env.dates now (env.zoneNamed "") range
      return fromMacros ++ fromRange
  | _ => .ok []

end QueryValidation

end TimePanel
