import TimePanel.Calendar.Date
import TimePanel.Fault
import TimePanel.Number.Literal
import TimePanel.Calendar.FreeForm.Token

/-! Collecting the numbers of a freely written date and telling year, month and day apart. -/

namespace TimePanel.FreeForm

-- The numbers found so far, in order, with the places of those known to be the year or the month.
structure Parts where
  values : List Int
  century : Bool
  yearAt : Option Nat
  monthAt : Option Nat
deriving Repr

namespace Parts

def none : Parts := ⟨[], false, .none, .none⟩

def push (parts : Parts) (value : Int) : Parts :=
  { parts with values := parts.values ++ [value] }

def pushYear (parts : Parts) (value : Int) : Except Fault Parts :=
  if parts.yearAt.isSome then .error .unreadableDate
  else .ok { parts.push value with yearAt := some parts.values.length }

def pushMonth (parts : Parts) (month : Nat) : Except Fault Parts :=
  if parts.monthAt.isSome then .error .unreadableDate
  else .ok { parts.push month with monthAt := some parts.values.length }

-- A number as written. With more than two digits it can only be a year, and names its century.
def pushText (parts : Parts) (digits : Token) (isYear : Bool) : Except Fault Parts := do
  let full := digits.all Text.isDigit && 2 < digits.length
  match Literal.integer? digits with
  | .none => throw .unreadableDate
  | some value =>
    if full then ({ parts with century := true } : Parts).pushYear value
    else if isYear then parts.pushYear value
    else return parts.push value

-- A number by its value. Above 100 it can only be a year, and names its century.
def pushValue (parts : Parts) (value : Rat) : Except Fault Parts :=
  if 100 < value then ({ parts with century := true } : Parts).pushYear value.floor
  else .ok (parts.push value.floor)

def part (parts : Parts) (place : Nat) : Int := parts.values[place]?.getD 0

-- Whether a value may be the day, as far as month and year are known.
def admitsDay (parts : Parts) (value : Rat) : Bool :=
  let last := match parts.monthAt, parts.yearAt with
    | .none, _ => 31
    | some month, .none => Calendar.daysInMonth 2000 (parts.part month).toNat
    | some month, some year =>
      Calendar.daysInMonth (parts.part year).toNat (parts.part month).toNat
  1 ≤ value && value ≤ last

-- Year, month and day, each if it was given.
structure Assigned where
  year : Option Int
  month : Option Int
  day : Option Int
deriving Repr

-- With the places of two out of three known the third one is left over.
def byPlaces (parts : Parts) : Assigned :=
  let at? := fun (place : Option Nat) => place.map parts.part
  if parts.values.length = 3 then
    match parts.yearAt, parts.monthAt with
    | some year, some month => ⟨parts.part year, parts.part month, parts.part (3 - year - month)⟩
    | year, month => ⟨at? year, at? month, .none⟩
  else ⟨at? parts.yearAt, at? parts.monthAt, .none⟩

def knownPlaces (parts : Parts) : Nat :=
  (if parts.yearAt.isSome then 1 else 0) + (if parts.monthAt.isSome then 1 else 0)

def single (month : Option Int) (other : Int) : Assigned :=
  if 31 < other then ⟨other, month, .none⟩ else ⟨.none, month, other⟩

def ofThree (parts : Parts) (a b c : Int) : Assigned :=
  match parts.monthAt with
  | some 0 => if 31 < b then ⟨b, a, c⟩ else ⟨c, a, b⟩
  | some 1 => if 31 < a then ⟨a, b, c⟩ else ⟨c, b, a⟩
  | some _ => if 31 < b then ⟨b, c, a⟩ else ⟨a, c, b⟩
  | .none =>
    if 31 < a ∨ parts.yearAt = some 0 then ⟨a, b, c⟩
    else if 12 < a then ⟨c, b, a⟩
    else ⟨c, a, b⟩

-- Numbers above 31 are years; otherwise the month comes before the day and the year last, unless
-- the first number is too large for a month.
def assign (parts : Parts) : Except Fault Assigned :=
  let known := parts.knownPlaces
  if (0 < known ∧ parts.values.length = known) ∨ (parts.values.length = 3 ∧ known = 2) then
    .ok parts.byPlaces
  else
    match parts.values, parts.monthAt with
    | [], _ => .ok ⟨.none, .none, .none⟩
    | [a], some _ => .ok ⟨.none, a, .none⟩
    | [a], .none => .ok (single .none a)
    | [a, b], some 0 => .ok (single a b)
    | [a, b], some _ => .ok (single b a)
    | [a, b], .none => .ok (if 31 < a then ⟨a, b, .none⟩ else if 31 < b then ⟨b, a, .none⟩
        else ⟨.none, a, b⟩)
    | [a, b, c], _ => .ok (ofThree parts a b c)
    | _, _ => .error .unreadableDate

end Parts

end TimePanel.FreeForm
