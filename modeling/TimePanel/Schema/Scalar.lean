import TimePanel.Cell.Text
import TimePanel.Schema.Checked

/-! Checks of single values against declared types. Values of a near type are converted: truth
values may be written as words or 0 and 1, and numbers as texts. -/

namespace TimePanel.Schema

def text : Cell → Checked String
  | .text s => .valid s
  | .unit u => .valid u.name
  | _ => .problem "string_type" "Input should be a valid string"

-- A text that is not empty.
def nonEmptyText (cell : Cell) : Checked String :=
  (text cell).bind fun s =>
    if s.isEmpty then .problem "string_too_short" "String should have at least 1 character"
    else .valid s

-- The digits before a fraction of zeros only.
def withoutZeroFraction (text : List Char) : List Char :=
  let (whole, rest) := text.span (· ≠ '.')
  match rest with
  | '.' :: zeros => if zeros.all (· = '0') then whole else text
  | _ => text

-- Whole numbers in plain digits, with single underscores between digits or a fraction of zeros.
def integerOfText? (text : String) : Option Int :=
  let trimmed := withoutZeroFraction (Text.strip text.toList)
  if trimmed.all (·.toNat < 128) then Literal.integer? trimmed else none

def notWhole : Checked Int :=
  .problem "int_from_float" "Input should be a valid integer, got a number with a fractional part"

def integer : Cell → Checked Int
  | .int n => .valid n
  | .bool b => .valid (if b then 1 else 0)
  | .float x =>
    match x.toRat? with
    | none => .problem "finite_number" "Input should be a finite number"
    | some q => if q.den = 1 then .valid q.num else notWhole
  | .text s =>
    .ofOption (integerOfText? s) "int_parsing"
      "Input should be a valid integer, unable to parse string as an integer"
  | _ => .problem "int_type" "Input should be a valid integer"

def positiveInteger (cell : Cell) : Checked Int :=
  (integer cell).bind fun n =>
    if 0 < n then .valid n else .problem "greater_than" "Input should be greater than 0"

def floatOfText? (text : String) : Option Binary64 :=
  let trimmed := Text.strip text.toList
  if trimmed.all (·.toNat < 128) then Literal.float? trimmed else none

def number : Cell → Checked Binary64
  | .float x => .valid x
  | .int n => .ofOption (Binary64.ofInt? n) "float_type" "Input should be a valid number"
  | .bool b => .valid (.ofRat (if b then 1 else 0))
  | .text s =>
    .ofOption (floatOfText? s) "float_parsing"
      "Input should be a valid number, unable to parse string as a number"
  | _ => .problem "float_type" "Input should be a valid number"

def yesWords : List String := ["1", "on", "t", "true", "y", "yes"]
def noWords : List String := ["0", "off", "f", "false", "n", "no"]

def boolOfText? (text : String) : Option Bool :=
  let word := text.map Char.toLower
  if yesWords.contains word then some true
  else if noWords.contains word then some false
  else none

def unclear : Checked Bool :=
  .problem "bool_parsing" "Input should be a valid boolean, unable to interpret input"

def noBool : Checked Bool :=
  .problem "bool_type" "Input should be a valid boolean"

def boolean : Cell → Checked Bool
  | .bool b => .valid b
  | .int n => if n = 0 then .valid false else if n = 1 then .valid true else unclear
  | .float x =>
    match x.toRat? with
    | none => noBool
    | some q =>
      if q = 0 then .valid false else if q = 1 then .valid true
      else if q.den = 1 then unclear else noBool
  | .text s => (boolOfText? s).elim unclear .valid
  | _ => noBool

-- One of several texts. It stands for its place among them.
def choice (allowed : List String) : Cell → Checked (Fin allowed.length)
  | .text s => .ofOption (allowed.finIdxOf? s) "literal_error" expected
  | _ => .problem "literal_error" expected
where
  listing : List String → String
    | [] => ""
    | [last] => last
    | [first, last] => first ++ " or " ++ last
    | first :: rest => first ++ ", " ++ listing rest
  expected : String := "Input should be " ++ listing (allowed.map fun s => "'" ++ s ++ "'")

-- Null is allowed and stands for nothing.
def optional {α : Type} (check : Cell → Checked α) : Cell → Checked (Option α)
  | .null => .valid none
  | cell => (check cell).map some

-- A unit by name. Null and the empty text stand for none.
def timeUnit : Cell → Checked (Option TimeUnit)
  | .null | .text "" => .valid none
  | cell =>
    match cell.timeUnit? with
    | some unit => .valid (some unit)
    | none =>
      .problem "value_error" ("Value error, Unknown time unit '" ++ cell.display ++ "'")

def list {α : Type} (item : Cell → Checked α) : Cell → Checked (List α)
  | .list items => .all item items
  | _ => .problem "list_type" "Input should be a valid list"

-- Any object; its fields are taken as they are.
def anyObject : Cell → Checked (List (String × Cell))
  | .object fields => .valid fields
  | _ => .problem "dict_type" "Input should be a valid dictionary"

end TimePanel.Schema
