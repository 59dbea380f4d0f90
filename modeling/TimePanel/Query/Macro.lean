import TimePanel.Text.Scan

/-! The macros that stand for time in a query. -/

namespace TimePanel

inductive TimeMacro where
  | filter
  | field
  | interval
  | start
  | finish
deriving DecidableEq, Repr

namespace TimeMacro

open Text

def all : List TimeMacro := [.filter, .field, .interval, .start, .finish]

def name : TimeMacro → String
  | .filter => "$__timeFilter"
  | .field => "$__timeField"
  | .interval => "$__interval"
  | .start => "$__timeFrom"
  | .finish => "$__timeTo"

def token (timeMacro : TimeMacro) : List Char := timeMacro.name.toList

-- Whether the characters of the macro stand somewhere, even as part of a longer word.
def standsIn (timeMacro : TimeMacro) (text : List Char) : Bool := contains timeMacro.token text

-- Accepts the macro where no word goes on after it.
def recognise (timeMacro : TimeMacro) (value : List Char) : Recogniser := fun _ text => do
  let rest ← after? timeMacro.token text
  if rest.head?.any isWord then none else some ⟨timeMacro.token.length, value⟩

-- Puts a value in place of each occurrence as a whole word.
def replace (timeMacro : TimeMacro) (value text : List Char) : List Char :=
  replaceAll (timeMacro.recognise value) text

-- Accepts any of the macros.
def recogniseAny (value : List Char) : Recogniser := fun before text =>
  all.findSome? fun timeMacro => timeMacro.recognise value before text

-- Whether a query holds any macro as a whole word.
def anyIn (query : List Char) : Bool := occurs (recogniseAny []) query

end TimeMacro

end TimePanel
