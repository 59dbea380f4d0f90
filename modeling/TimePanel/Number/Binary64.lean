import TimePanel.Number.Rounding

/-! Floating-point numbers with 53 significant bits, as exact rational values with one rounding per
operation. -/

namespace TimePanel

-- A finite float is `significand * 2 ^ exponent`, with its sign kept apart so that zero has two.
inductive Binary64 where
  | nan
  | infinite (negative : Bool)
  | finite (negative : Bool) (significand : Nat) (exponent : Int)
deriving DecidableEq, Repr, Inhabited

namespace Binary64

open Rounding

def minExponent : Int := -1074
def maxExponent : Int := 971

-- The least significand with all 53 bits, and the bound that no significand reaches.
def leastFull : Nat := 4503599627370496
def significandBound : Nat := 9007199254740992

def zero (negative : Bool) : Binary64 := .finite negative 0 minExponent

-- The exact value of a finite float.
def toRat? : Binary64 → Option Rat
  | .finite negative significand exponent =>
    let magnitude := (significand : Rat) * power 2 exponent
    some (if negative then -magnitude else magnitude)
  | _ => none

-- The float nearest to a magnitude that is not negative. Half-way values go to the even
-- significand, and values too large for every exponent become infinite.
def ofMagnitude (negative : Bool) (magnitude : Rat) : Binary64 :=
  if magnitude = 0 then zero negative
  else
    let exponent := max (binaryOrder magnitude - 52) minExponent
    let significand := (nearest (magnitude / power 2 exponent)).toNat
    let (significand, exponent) :=
      if significand = significandBound then (leastFull, exponent + 1) else (significand, exponent)
    if maxExponent < exponent then .infinite negative
    else .finite negative significand exponent

def ofRat (q : Rat) : Binary64 :=
  if q < 0 then ofMagnitude true (-q) else ofMagnitude false q

def isNaN : Binary64 → Bool
  | .nan => true
  | _ => false

def isInfinite : Binary64 → Bool
  | .infinite _ => true
  | _ => false

-- The float of an integer, unless it rounds past the greatest finite float.
def ofInt? (n : Int) : Option Binary64 :=
  match ofRat n with
  | .infinite _ => none
  | value => some value

-- An exact zero keeps its sign only when both summands are negative zeros.
def add : Binary64 → Binary64 → Binary64
  | .nan, _ | _, .nan => .nan
  | .infinite a, .infinite b => if a = b then .infinite a else .nan
  | .infinite a, .finite .. => .infinite a
  | .finite .., .infinite b => .infinite b
  | a@(.finite na _ _), b@(.finite nb _ _) =>
    let sum := a.toRat?.getD 0 + b.toRat?.getD 0
    if sum = 0 then zero (na && nb) else ofRat sum

-- The product with a positive whole number that is itself a float.
def scale (a : Binary64) (factor : Nat) : Binary64 :=
  match a with
  | .finite negative _ _ =>
    let product := a.toRat?.getD 0 * factor
    if product = 0 then zero negative else ofRat product
  | other => other

-- The quotient by a positive whole number that is itself a float.
def divide (a : Binary64) (divisor : Nat) : Binary64 :=
  match a with
  | .finite negative _ _ =>
    let quotient := a.toRat?.getD 0 / divisor
    if quotient = 0 then zero negative else ofRat quotient
  | other => other

def abs : Binary64 → Binary64
  | .nan => .nan
  | .infinite _ => .infinite false
  | .finite _ significand exponent => .finite false significand exponent

def isZero (a : Binary64) : Bool := a.toRat? = some 0

-- Infinities and not-a-number have a fractional part in this sense: they are no whole numbers.
def isWhole (a : Binary64) : Bool := a.toRat?.any fun q => q.den = 1

end Binary64

end TimePanel
