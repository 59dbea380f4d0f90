import TimePanel.Json.Reader
import TimePanel.Schema.Checked

/-! What the service receives as the body of a request and what it answers. -/

namespace TimePanel

inductive RequestBody where
  | absent
  -- no JSON, where reading stopped at the given place
  | malformed (place : Nat)
  -- JSON with a number or a nesting beyond all limits
  | unreadable
  | value (cell : Cell)
deriving Repr

inductive Reply where
  | success (body : Cell)
  -- the request does not have the declared shape
  | rejected (problems : List Problem)
  | refused (status : Nat) (detail : String)
  -- the answer could not be computed
  | failed
deriving Repr

namespace RequestBody

private def length (text : String) : Nat :=
  if text.toList.head? = some '\ufeff' then text.length - 1 else text.length

def ofText (text : String) : RequestBody :=
  if text.isEmpty then .absent
  else
    match Json.read .lenient text with
    | .ok cell => .value cell
    | .error (.malformed left) => .malformed (length text - left)
    | .error _ => .unreadable

private def inBody (problem : Problem) : Problem := problem.within (.field "body")

-- The value of a body that passes a check, or the answer to one that does not.
def checked {α : Type} (body : RequestBody) (check : Cell → Checked α) : Except Reply α :=
  match body with
  | .absent => .error (.rejected [inBody ⟨[], "missing", "Field required"⟩])
  | .malformed place =>
    .error (.rejected [inBody ⟨[.index place], "json_invalid", "JSON decode error"⟩])
  | .unreadable => .error (.refused 400 "There was an error parsing the body")
  | .value cell =>
    match check cell with
    | .valid result => .ok result
    | .invalid problems => .error (.rejected (problems.map inBody))

end RequestBody

namespace Reply

def notFound : Reply := .refused 404 "Not Found"

def methodNotAllowed : Reply := .refused 405 "Method Not Allowed"

def status : Reply → Nat
  | .success _ => 200
  | .rejected _ => 422
  | .refused status _ => status
  | .failed => 500

-- The answer of a computation whose faults are not foreseen.
def orFailed (result : Except Fault Cell) : Reply :=
  match result with
  | .ok body => .success body
  | .error _ => .failed

-- The answer of a computation whose faults are told.
def orTold (result : Except Fault Cell) : Reply :=
  match result with
  | .ok body => .success body
  | .error fault => .refused 500 fault.message

private def stepCell : Step → Cell
  | .field name => .text name
  | .index place => .int place

private def problemCell (problem : Problem) : Cell :=
  .object
    [("loc", .list (problem.location.map stepCell)), ("type", .text problem.kind),
     ("msg", .text problem.message)]

mutual

-- JSON has no words for infinity and not-a-number, so they are left out.
def finite : Cell → Cell
  | .float x => if x.isNaN || x.isInfinite then .null else .float x
  | .list items => .list (finiteItems items)
  | .object fields => .object (finiteFields fields)
  | .record kind fields => .record kind (finiteFields fields)
  | cell => cell

def finiteItems : List Cell → List Cell
  | [] => []
  | item :: rest => finite item :: finiteItems rest

def finiteFields : List (String × Cell) → List (String × Cell)
  | [] => []
  | (key, value) :: rest => (key, finite value) :: finiteFields rest

end

def body : Reply → Cell
  | .success body => finite body
  | .rejected problems => .list (problems.map problemCell)
  | .refused _ detail => .object [("detail", .text detail)]
  | .failed => .text "Internal Server Error"

end Reply

end TimePanel
