import TimePanel.Schema.Moment
import TimePanel.Schema.Record

/-! The shapes in which a range of time is described. -/

namespace TimePanel

-- One end of an absolute range.
inductive RangeEnd where
  | moment (value : DateTime)
  | written (text : String)
deriving DecidableEq, Repr

namespace RangeEnd

def toCell : RangeEnd → Cell
  | .moment value => .dateTime value
  | .written text => .text text

def isEmpty : RangeEnd → Bool
  | .moment _ => false
  | .written text => text.isEmpty

-- Texts are kept as they are; dates and numbers become moments.
def ofCell : Cell → Checked RangeEnd
  | .text s => .valid (.written s)
  | .unit u => .valid (.written u.name)
  | cell => (Schema.moment cell).map .moment

end RangeEnd

-- A range back from now, one between two moments, and one as a query carries it, which can be
-- switched off.
inductive RangeDescriptor where
  | relative (start finish : String)
  | absolute (start finish : RangeEnd)
  | query (start finish : String) (enabled : Bool) (display : Option String)
deriving DecidableEq, Repr

namespace RangeDescriptor

open Schema

def startField {α : Type} (check : Cell → Checked α) (fields : List (String × Cell)) :
    Checked α :=
  field ["from", "from_"] check fields

def finishField {α : Type} (check : Cell → Checked α) (fields : List (String × Cell)) :
    Checked α :=
  field ["to"] check fields

def relativeOf (fields : List (String × Cell)) : Checked RangeDescriptor :=
  (Checked.valid .relative)
    |>.apply (startField text fields)
    |>.apply (fieldOr "now" ["to"] text fields)

def absoluteOf (fields : List (String × Cell)) : Checked RangeDescriptor :=
  (Checked.valid .absolute)
    |>.apply (startField RangeEnd.ofCell fields)
    |>.apply (finishField RangeEnd.ofCell fields)

def queryOf (fields : List (String × Cell)) : Checked RangeDescriptor :=
  (Checked.valid .query)
    |>.apply (startField text fields)
    |>.apply (finishField text fields)
    |>.apply (fieldOr true ["enabled"] boolean fields)
    |>.apply (fieldOr none ["display"] (optional text) fields)

-- How an object is read. Objects name their shape under `kind`, or else under `type`. Those that do
-- not are as queries carry them.
def readerOf (fields : List (String × Cell)) :
    Option (List (String × Cell) → Checked RangeDescriptor) :=
  match fields.lookup "kind" <|> fields.lookup "type" with
  | some (.text "relative") => some relativeOf
  | some (.text "absolute") => some absoluteOf
  | some _ => none
  | none => some queryOf

def ofFields (fields : List (String × Cell)) : Option RangeDescriptor :=
  (readerOf fields).bind fun read => (read fields).toOption

-- Records of another kind are read like objects with their fields.
def ofCell : Cell → Option RangeDescriptor
  | .record .relativeRange fields => (relativeOf fields).toOption
  | .record .absoluteRange fields => (absoluteOf fields).toOption
  | .record .queryRange fields => (queryOf fields).toOption
  | .record _ fields | .object fields => ofFields fields
  | _ => none

def start : RangeDescriptor → RangeEnd
  | .relative start _ | .query start _ _ _ => .written start
  | .absolute start _ => start

def finish : RangeDescriptor → RangeEnd
  | .relative _ finish | .query _ finish _ _ => .written finish
  | .absolute _ finish => finish

def isDisabled : RangeDescriptor → Bool
  | .query _ _ enabled _ => !enabled
  | _ => false

-- The end that is used to resolve the range: a relative range without an end reaches until now.
def effectiveFinish : RangeDescriptor → RangeEnd
  | .relative _ "" => .written "now"
  | descriptor => descriptor.finish

def kind : RangeDescriptor → RecordKind
  | .relative .. => .relativeRange
  | .absolute .. => .absoluteRange
  | .query .. => .queryRange

def fields : RangeDescriptor → List (String × Cell)
  | .relative start finish =>
    [("kind", .text "relative"), ("from", .text start), ("to", .text finish)]
  | .absolute start finish =>
    [("kind", .text "absolute"), ("from", start.toCell), ("to", finish.toCell)]
  | .query start finish enabled display =>
    [("from", .text start), ("to", .text finish), ("enabled", .bool enabled),
     ("display", display.elim .null .text)]

def toRecord (descriptor : RangeDescriptor) : Cell := .record descriptor.kind descriptor.fields

end RangeDescriptor

-- What is handed over as a description of a range: a value, or a mapping, whose keys need not be
-- texts.
inductive RangeInput where
  | value (cell : Cell)
  | mapping (entries : List (Cell × Cell))
deriving Repr

namespace RangeInput

-- The name that a key gives to a field.
def name? : Cell → Option String
  | .text name => some name
  | .unit u => some u.name
  | _ => none

-- The entries of a mapping that have a name.
def fieldsOf (entries : List (Cell × Cell)) : List (String × Cell) :=
  entries.filterMap fun (key, cell) => (name? key).map fun name => (name, cell)

-- The description, if there is one. A mapping is read like an object, but where it is read at all
-- every entry has to have a name.
def descriptor : RangeInput → Except Fault (Option RangeDescriptor)
  | .value cell => .ok (RangeDescriptor.ofCell cell)
  | .mapping entries =>
    match RangeDescriptor.readerOf (fieldsOf entries) with
    | some read =>
      if entries.all fun entry => (name? entry.1).isSome then
        .ok (read (fieldsOf entries)).toOption
      else .error .unsuitableValue
    | none => .ok none

end RangeInput

end TimePanel
