import TimePanel.Chart.Synthesis
import TimePanel.Presets.Standard
import TimePanel.Query.Preparation
import TimePanel.Service.Reply
import TimePanel.Service.Requests

/-! The endpoints of the service. -/

namespace TimePanel

inductive Endpoint where
  | health
  | quickRanges
  | interpolate
  | validate
  | resolve
  | analyze
  | defaultChart
  | synthesize
deriving DecidableEq, Repr

-- What arrives at the service.
structure Request where
  method : String
  path : String
  parameters : List (String × String)
  body : RequestBody

namespace Endpoint

def all : List Endpoint :=
  [.health, .quickRanges, .interpolate, .validate, .resolve, .analyze, .defaultChart, .synthesize]

def path : Endpoint → String
  | .health => "/health"
  | .quickRanges => "/time-range/quick-ranges"
  | .interpolate => "/query/interpolate"
  | .validate => "/query/validate"
  | .resolve => "/time-range/resolve"
  | .analyze => "/fields/analyze"
  | .defaultChart => "/charts/default"
  | .synthesize => "/charts/synthesize"

def method : Endpoint → String
  | .health | .quickRanges => "GET"
  | _ => "POST"

-- Slashes at the end of a path make no difference.
def ofPath? (path : String) : Option Endpoint :=
  let trimmed := (path.toList.reverse.dropWhile (· = '/')).reverse
  all.find? fun endpoint => endpoint.path.toList = trimmed

variable (env : Surroundings)

private def momentOr (now : Option DateTime) : Except Fault Instant :=
  now.elim (.ok env.clock) Instant.ofDateTime

private def objectOrNull (fields : Option (List (String × Cell))) : Cell :=
  fields.elim .null .object

-- The quick ranges, with the one without a filter only if asked for.
def listQuickRanges (parameters : List (String × String)) : Reply :=
  let asked : Checked Bool := match parameters.lookup "include_disabled" with
    | some value => Schema.boolean (.text value)
    | none => .valid false
  match asked with
  | .valid all =>
    let ranges := Presets.quickRanges ++ (if all then [Presets.noTimeFilter] else [])
    .success (.list (ranges.map (·.toCell)))
  | .invalid problems =>
    .rejected (problems.map fun problem =>
      (problem.within (.field "include_disabled")).within (.field "query"))

-- What is not given is taken from the settings.
private def contextOf (request : InterpolateRequest) : QueryContext :=
  { timeColumn := request.timeColumn
    timeColumnSchema := request.timeColumnSchema
    columns := request.columns
    timeRange := objectOrNull request.timeRange
    timeZone := (request.timeZone.filter (!·.isEmpty)).getD env.settings.defaultTimeZone
    maxPoints := request.maxPoints.getD env.settings.maxDataPoints }

def interpolateQuery (request : InterpolateRequest) : Reply :=
  let context := contextOf env request
  if context.maxPoints ≤ 0 then .failed
  else .orTold do
    let now ← momentOr env request.now
    let prepared ←
      PreparedQuery.ofQuery env (.text request.query) context.toRecord now request.isBlocking
    return .object prepared.fields

def validateQuery (request : ValidateRequest) : Reply :=
  .orFailed do
    let errors ← QueryValidation.errors env (.text request.query) request.timeColumn
      (objectOrNull request.timeRange) (← momentOr env request.now)
    return .object [("is_valid", .bool errors.isEmpty), ("errors", .list (errors.map .text))]

-- The range that is asked for: a quick range, one that is described, or the default range.
private def rangeOf (request : ResolveRequest) : Except Reply Cell :=
  match request.quickRange.filter (!·.isEmpty), request.timeRange with
  | some display, _ =>
    match Presets.quickRange? display with
    | some range => .ok range.toCell
    | none => .error (.refused 404 ("Unknown quick range '" ++ display ++ "'"))
  | none, some fields => .ok (.object fields)
  | none, none => .ok Presets.defaultRange.toCell

private def boundsCell (bounds : Option TimeBounds) : Except Fault Cell :=
  match bounds with
  | some bounds => bounds.toCell
  | none => .ok .null

def resolveRange (request : ResolveRequest) : Except Reply Reply := do
  let range ← rangeOf request
  if (RangeDescriptor.ofCell range).isNone then
    throw (.refused 422 "Unrecognised time range descriptor")
  match env.zoneNamed? (request.timeZone.getD "") with
  | some zone =>
    return .orFailed do
      let bounds ← range.bounds env.dates (← momentOr env request.now) zone
      return .object [("resolved", .bool bounds.isSome), ("bounds", ← boundsCell bounds)]
  | none => throw (.refused 422 ("Unknown time zone '" ++ request.timeZone.getD "None" ++ "'"))

private def fieldsOf (request : AnalyzeRequest) : Except Fault (List FieldInfo) :=
  Analysis.fields env.settings env.dates request.rows (request.hints.getD [])

def analyzeFields (request : AnalyzeRequest) : Reply :=
  .orFailed do
    return .object [("fields", .list ((← fieldsOf env request).map (·.toCell)))]

def chooseChart (request : AnalyzeRequest) : Reply :=
  .orFailed do
    return (ChartConfiguration.ofFieldInfos env (← fieldsOf env request)).toRecord

def synthesizeChart (request : SynthesizeRequest) : Reply :=
  let config := request.config.elim .null (·.toRecord)
  let theme := match request.colors with
    | some colors => colors.toRecord
    | none => request.theme.elim .null .text
  .orTold do
    let build ← ChartBuild.ofRows env request.rows config (request.hints.getD []) theme
    return .object (build.toFields ++ [("drawable", .bool build.isDrawable)])

-- The answer of an endpoint to a request of its method.
def answer (endpoint : Endpoint) (request : Request) : Except Reply Reply :=
  let body := request.body
  match endpoint with
  | .health => .ok (.success (.object [("status", .text "ok")]))
  | .quickRanges => .ok (listQuickRanges request.parameters)
  | .interpolate => return interpolateQuery env (← body.checked InterpolateRequest.ofCell)
  | .validate => return validateQuery env (← body.checked ValidateRequest.ofCell)
  | .resolve => do resolveRange env (← body.checked ResolveRequest.ofCell)
  | .analyze => return analyzeFields env (← body.checked AnalyzeRequest.ofCell)
  | .defaultChart => return chooseChart env (← body.checked AnalyzeRequest.ofCell)
  | .synthesize => return synthesizeChart env (← body.checked (SynthesizeRequest.ofCell env))

end Endpoint

-- The answer to any request.
def Request.reply (env : Surroundings) (request : Request) : Reply :=
  match Endpoint.ofPath? request.path with
  | none => .notFound
  | some endpoint =>
    if request.method = endpoint.method then
      match endpoint.answer env request with
      | .ok reply | .error reply => reply
    else .methodNotAllowed

end TimePanel
