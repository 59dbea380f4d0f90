import TimePanel.Schema.Scalar

/-! Checks of objects against a list of declared fields. -/

namespace TimePanel.Schema

-- Where a value comes from decides how a missing object is reported.
inductive Origin where
  | library
  | request
deriving DecidableEq, Repr

def noObject {α : Type} : Origin → String → Checked α
  | .library, name =>
    .problem "model_type" ("Input should be a valid dictionary or instance of " ++ name)
  | .request, _ =>
    .problem "model_attributes_type"
      "Input should be a valid dictionary or object to extract fields from"

-- The fields of the object that makes up a request.
def requestFields : Cell → Checked (List (String × Cell))
  | .object fields => .valid fields
  | _ => noObject .request ""

-- The fields of an object, or of a record of the same kind that was checked before.
def fieldsOf (origin : Origin) (kind : RecordKind) : Cell → Checked (List (String × Cell))
  | .object fields => .valid fields
  | .record other fields => if other = kind then .valid fields else noObject origin kind.name
  | _ => noObject origin kind.name

-- The first of several spellings of a field that occurs, with its value.
def find? (spellings : List String) (fields : List (String × Cell)) : Option (String × Cell) :=
  spellings.findSome? fun name => (fields.lookup name).map fun value => (name, value)

variable {α : Type}

-- A field that may be missing, and then has the given value.
def fieldOr (default : α) (spellings : List String) (check : Cell → Checked α)
    (fields : List (String × Cell)) : Checked α :=
  match find? spellings fields with
  | some (name, value) => (check value).within (.field name)
  | none => .valid default

-- A field that has to be there. It is reported under its first spelling if it is missing.
def field (spellings : List String) (check : Cell → Checked α)
    (fields : List (String × Cell)) : Checked α :=
  match find? spellings fields with
  | some (name, value) => (check value).within (.field name)
  | none =>
    (Checked.problem "missing" "Field required").within (.field (spellings.headD ""))

end TimePanel.Schema
