import TimePanel.Query.Interpolation
import TimePanel.Query.Validation

/-! Checking a query and putting values in place of its macros. -/

namespace TimePanel

-- What became of a query. Without an interpolation it was held back.
structure PreparedQuery where
  query : Cell
  interpolation : Option Interpolation
  validationErrors : List String

namespace PreparedQuery

def isBlocked (prepared : PreparedQuery) : Bool := prepared.interpolation.isNone

def interpolationErrors (prepared : PreparedQuery) : List String :=
  prepared.interpolation.elim [] (·.errors)

def errors (prepared : PreparedQuery) : List String :=
  prepared.validationErrors ++ prepared.interpolationErrors

def isSuccess (prepared : PreparedQuery) : Bool :=
  !prepared.isBlocked && prepared.errors.isEmpty

def holdsTimeVariables : Cell → Bool
  | .text text => TimeMacro.anyIn text.toList
  | _ => false

-- No time is measured, so none is reported to have passed.
def fields (prepared : PreparedQuery) : List (String × Cell) :=
  [("query", prepared.query),
   ("has_time_variables", .bool (prepared.interpolation.elim (holdsTimeVariables prepared.query)
     (·.hasTimeVariables))),
   ("interpolated", prepared.interpolation.elim (.object []) (·.interpolated.toCell)),
   ("validation_errors", .list (prepared.validationErrors.map .text)),
   ("interpolation_errors", .list (prepared.interpolationErrors.map .text)),
   ("blocked", .bool prepared.isBlocked),
   ("latency_ms", .int 0)]

def ofContext (env : Surroundings) (query : Cell) (context : QueryContext)
    (now : Instant) (blocking : Bool) : Except Fault PreparedQuery := do
  let column := context.timeColumnWithSchema.1
  let problems ← QueryValidation.errors env query column context.timeRange now
  if blocking ∧ !problems.isEmpty then return ⟨query, none, problems⟩
  else
    let result ← Interpolation.inContext env query context now
    return ⟨.text result.query, some result, problems⟩

-- Checks and interpolates a query. Problems found by the check hold it back only if `blocking`.
def ofQuery (env : Surroundings) (query context : Cell) (now : Instant) (blocking : Bool) :
    Except Fault PreparedQuery :=
  match QueryContext.ofCell env.settings context with
  | .ok context => ofContext env query context now blocking
  | .error errors =>
    .ok ⟨query, some ⟨"", holdsTimeVariables query, .none, errors⟩, []⟩

end PreparedQuery

end TimePanel
