import TimePanel.Number.Binary64
import TimePanel.Fault

/-! Numbers as they occur in data: whole numbers of any size and floats. -/

namespace TimePanel

inductive Number where
  | int (value : Int)
  | float (value : Binary64)
deriving DecidableEq, Repr, Inhabited

-- A point of the number line with its two ends.
inductive Extended where
  | bottom
  | value (q : Rat)
  | top
deriving DecidableEq

def Extended.lt : Extended → Extended → Bool
  | .bottom, .bottom => false
  | .bottom, _ => true
  | .value a, .value b => a < b
  | .value _, .top => true
  | _, _ => false

namespace Binary64

def extended? : Binary64 → Option Extended
  | .nan => none
  | .infinite negative => some (if negative then .bottom else .top)
  | a => a.toRat?.map .value

end Binary64

namespace Number

-- The place of a number on the extended line; not-a-number has none.
def extended? : Number → Option Extended
  | .int n => some (.value n)
  | .float x => x.extended?

def isNaN : Number → Bool
  | .int _ => false
  | .float x => x.isNaN

-- Comparisons are exact, also between a whole number and a float. Not-a-number is neither below,
-- above nor equal to anything.
def lt (a b : Number) : Bool :=
  match a.extended?, b.extended? with
  | some x, some y => x.lt y
  | _, _ => false

def same (a b : Number) : Bool :=
  match a.extended?, b.extended? with
  | some x, some y => x = y
  | _, _ => false

def le (a b : Number) : Bool := a.lt b || a.same b

def abs : Number → Number
  | .int n => .int n.natAbs
  | .float x => .float x.abs

def isZero (a : Number) : Bool := a.same (.int 0)

def toFloat : Number → Except Fault Binary64
  | .int n => (Binary64.ofInt? n).elim (.error .integerTooLarge) .ok
  | .float x => .ok x

-- Whole numbers add exactly; as soon as a float takes part both are floats.
def add : Number → Number → Except Fault Number
  | .int a, .int b => .ok (.int (a + b))
  | a, b => do return .float ((← a.toFloat).add (← b.toFloat))

-- The sum from left to right, starting at the whole number zero.
def sum (numbers : List Number) : Except Fault Number :=
  numbers.foldlM add (.int 0)

-- The mean of a total over `count` values, which is a float.
def mean (total : Number) (count : Nat) : Except Fault Binary64 :=
  match total with
  | .int n =>
    match Binary64.ofRat (mkRat n count) with
    | .infinite _ => .error .quotientTooLarge
    | value => .ok value
  | .float x => .ok (x.divide count)

-- The nearest whole number of a float; a half goes to the even neighbour.
def round (x : Binary64) : Except Fault Int :=
  match x with
  | .nan => .error .nanToInteger
  | .infinite _ => .error .infiniteToInteger
  | .finite .. => .ok (Rounding.nearest (x.toRat?.getD 0))

end Number

end TimePanel
