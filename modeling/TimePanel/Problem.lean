/-! One problem found when a value is checked against a declared shape. -/

namespace TimePanel

-- One step of the way to the offending value: a field's name or a place in a list.
inductive Step where
  | field (name : String)
  | index (place : Nat)
deriving Repr, DecidableEq

def Step.text : Step → String
  | .field name => name
  | .index place => toString place

structure Problem where
  location : List Step
  -- a short name for the kind of the problem
  kind : String
  message : String
deriving Repr, DecidableEq

-- The way to the offending value, its steps joined by points.
def Problem.path (problem : Problem) : String :=
  ".".intercalate (problem.location.map Step.text)

def Problem.within (step : Step) (problem : Problem) : Problem :=
  { problem with location := step :: problem.location }

end TimePanel
