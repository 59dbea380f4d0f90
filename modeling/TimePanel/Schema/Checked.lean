import TimePanel.Fault

/-! The outcome of checking a value: the value in its declared type, or everything that is wrong
with it. -/

namespace TimePanel

inductive Checked (α : Type) where
  | valid (value : α)
  | invalid (problems : List Problem)
deriving Repr

namespace Checked

variable {α β : Type}

def map (f : α → β) : Checked α → Checked β
  | .valid value => .valid (f value)
  | .invalid problems => .invalid problems

-- Checks both sides, and reports the problems of both in order.
def apply (f : Checked (α → β)) (value : Checked α) : Checked β :=
  match f, value with
  | .valid f, .valid value => .valid (f value)
  | .valid _, .invalid problems => .invalid problems
  | .invalid problems, .valid _ => .invalid problems
  | .invalid problems, .invalid more => .invalid (problems ++ more)

def bind (value : Checked α) (next : α → Checked β) : Checked β :=
  match value with
  | .valid value => next value
  | .invalid problems => .invalid problems

def problem (kind message : String) : Checked α := .invalid [⟨[], kind, message⟩]

-- Places the problems inside a field or an item.
def within (step : Step) : Checked α → Checked α
  | .valid value => .valid value
  | .invalid problems => .invalid (problems.map (·.within step))

def ofOption (value : Option α) (kind message : String) : Checked α :=
  value.elim (problem kind message) .valid

def toOption : Checked α → Option α
  | .valid value => some value
  | .invalid _ => none

def toExcept : Checked α → Except Fault α
  | .valid value => .ok value
  | .invalid problems => .error (.invalid problems)

-- Checks all items, and reports the problems of each at its place in the list.
def allFrom (check : α → Checked β) (place : Nat) : List α → Checked (List β)
  | [] => .valid []
  | item :: rest =>
    ((check item).within (.index place) |>.map List.cons).apply (allFrom check (place + 1) rest)

def all (check : α → Checked β) (items : List α) : Checked (List β) := allFrom check 0 items

end Checked

end TimePanel
