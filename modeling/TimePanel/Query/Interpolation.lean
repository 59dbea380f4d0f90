import TimePanel.Query.Alias
import TimePanel.Query.Context
import TimePanel.Query.Sanitizer
import TimePanel.Query.TimeFilter

/-! Putting values in place of the macros of a query. -/

namespace TimePanel

-- The values that were put into a query, by the macro that they stand for.
structure Substitutions where
  timeField : Option String
  timeFilter : Option String
  interval : Option Int
  timeFrom : Option Int
  timeTo : Option Int
deriving DecidableEq, Repr

namespace Substitutions

def none : Substitutions := ⟨.none, .none, .none, .none, .none⟩

def entry {α : Type} (name : String) (value : Option α) (toCell : α → Cell) :
    List (String × Cell) :=
  value.elim [] fun value => [(name, toCell value)]

-- Only the values that were put in are listed.
def toCell (values : Substitutions) : Cell :=
  .object (entry "timeField" values.timeField .text ++
    entry "timeFilter" values.timeFilter .text ++
    entry "interval" values.interval .int ++
    entry "timeFrom" values.timeFrom .int ++
    entry "timeTo" values.timeTo .int)

end Substitutions

structure Interpolation where
  query : String
  hasTimeVariables : Bool
  interpolated : Substitutions
  errors : List String

namespace Interpolation

def fields (result : Interpolation) : List (String × Cell) :=
  [("query", .text result.query), ("has_time_variables", .bool result.hasTimeVariables),
   ("interpolated", result.interpolated.toCell), ("errors", .list (result.errors.map .text))]

-- A query on its way through the passes.
structure Draft where
  text : List Char
  values : Substitutions
  errors : List String

-- The time column takes the place of its macro, and aliases of it are resolved.
def placeColumn (column : Option String) (draft : Draft) : Draft :=
  match column with
  | some column =>
    let used := TimeMacro.field.standsIn draft.text
    let text :=
      if used then TimeMacro.field.replace column.toList draft.text else draft.text
    { draft with
      text := TimeAlias.resolveAll text column.toList
      values := { draft.values with timeField := if used then some column else none } }
  | none => draft

-- Without a window the filter lets everything through.
def placeFilter (clause : Except Fault (Option String)) (draft : Draft) :
    Except Fault Draft := do
  if TimeMacro.filter.standsIn draft.text then
    let clause := (← clause).getD "1=1"
    return { draft with
      text := TimeMacro.filter.replace clause.toList draft.text
      values := { draft.values with timeFilter := some clause } }
  else return draft

def placeInterval (interval : Except Fault Int) (draft : Draft) : Except Fault Draft := do
  if TimeMacro.interval.standsIn draft.text then
    let interval ← interval
    return { draft with
      text := TimeMacro.interval.replace (toString interval ++ "s").toList draft.text
      values := { draft.values with interval := some interval } }
  else return draft

def placeStart (tick : Int) (draft : Draft) : Draft :=
  if TimeMacro.start.standsIn draft.text then
    { draft with
      text := TimeMacro.start.replace (toString tick).toList draft.text
      values := { draft.values with timeFrom := some tick } }
  else draft

def placeFinish (tick : Int) (draft : Draft) : Draft :=
  if TimeMacro.finish.standsIn draft.text then
    { draft with
      text := TimeMacro.finish.replace (toString tick).toList draft.text
      values := { draft.values with timeTo := some tick } }
  else draft

def unresolvedEnds : String :=
  "$__timeFrom/$__timeTo require a resolvable time range; left unchanged."

def placeEnds (ends : Option (Int × Int)) (draft : Draft) : Draft :=
  if TimeMacro.start.standsIn draft.text ∨ TimeMacro.finish.standsIn draft.text then
    match ends with
    | some (start, finish) => placeFinish finish (placeStart start draft)
    | none => { draft with errors := draft.errors ++ [unresolvedEnds] }
  else draft

-- Whether the text holds a macro whose value comes from the range.
def needsRange (text : List Char) : Bool :=
  [TimeMacro.filter, .interval, .start, .finish].any (·.standsIn text)

def invalidQuery : Interpolation := ⟨"", false, .none, ["Invalid query provided"]⟩

section

variable (env : Surroundings) (context : QueryContext)

-- The zone of a context. Universal time stands in for one that is not known.
def zoneOf : Zone := env.zoneNamed context.timeZone

def zoneErrors : List String :=
  if (env.zoneNamed? context.timeZone).isNone then
    ["Unknown time zone '" ++ context.timeZone ++ "', using UTC"]
  else []

-- The time column of a query: the one that its context gives, or else, if the macro asks for one,
-- a guess.
def columnFor (text : List Char) : Option String :=
  context.timeColumnWithSchema.1.filter (!·.isEmpty) <|>
    (if TimeMacro.field.standsIn text then some (String.ofList (TimeColumn.detect text)) else none)

-- The window of the context's range, if a text has use for it.
def windowFor (now : Instant) (text : List Char) : Except Fault (Option TimeBounds) :=
  if needsRange text ∧ !context.timeRange.isNull then
    context.timeRange.bounds env.dates now (zoneOf env context)
  else .ok none

def clauseFor (column : String) (window : Option TimeBounds) : Except Fault (Option String) :=
  match window with
  | some bounds =>
    (bounds.filter column context.timeColumnWithSchema.2 (zoneOf env context)).map some
  | none => .ok none

def intervalFor (window : Option TimeBounds) : Except Fault Int :=
  match window with
  | some bounds => bounds.interval context.maxPoints
  | none => .ok env.settings.fallbackIntervalSeconds

def endsFor (column : String) (window : Option TimeBounds) : Option (Int × Int) :=
  window.map
    (·.ticks (TimeColumn.unitOr column (TimeColumn.unit column context.timeColumnWithSchema.2)))

-- Puts the values of a known context into a query that is not empty. Each pass works on the text
-- that the passes before it left.
def ofContext (query : List Char) (now : Instant) : Except Fault Interpolation := do
  let (text, problems) := Sanitizer.sanitize query
  let column := columnFor context text
  let draft := placeColumn column ⟨text, .none, problems ++ zoneErrors env context⟩
  let window ← windowFor env context now draft.text
  let column := column.getD TimeColumn.fallback
  let draft ← placeFilter (clauseFor env context column window) draft
  let draft ← placeInterval (intervalFor env context window) draft
  let draft := placeEnds (endsFor context column window) draft
  return ⟨String.ofList draft.text, TimeMacro.anyIn text, draft.values, draft.errors⟩

end

-- The query with its macros replaced as far as a known context allows.
def inContext (env : Surroundings) (query : Cell) (context : QueryContext) (now : Instant) :
    Except Fault Interpolation :=
  match query with
  | .text text => if text.isEmpty then .ok invalidQuery else ofContext env context text.toList now
  | _ => .ok invalidQuery

def unknownContext (query : Cell) (errors : List String) : Interpolation :=
  match query with
  | .text text =>
    if text.isEmpty then invalidQuery else ⟨text, TimeMacro.anyIn text.toList, .none, errors⟩
  | _ => invalidQuery

-- The query with its macros replaced as far as the context allows, and what stood in the way.
def ofQuery (env : Surroundings) (query context : Cell) (now : Instant) :
    Except Fault Interpolation :=
  match QueryContext.ofCell env.settings context with
  | .ok context => inContext env query context now
  | .error errors => .ok (unknownContext query errors)

end Interpolation

end TimePanel
