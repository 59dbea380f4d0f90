import TimePanel.Number.Binary64

/-! The shortest decimal text that reads back as a given float. -/

namespace TimePanel

namespace Binary64

open Rounding

-- A decimal number `digits * 10 ^ exponent`.
structure Decimal where
  digits : Nat
  exponent : Int
deriving Repr, DecidableEq

-- The values that round to one float. The ends belong to it when the significand is even.
structure Interval where
  low : Rat
  high : Rat
  closed : Bool

def Interval.has (interval : Interval) (q : Rat) : Bool :=
  if interval.closed then interval.low ≤ q && q ≤ interval.high
  else interval.low < q && q < interval.high

-- Below a power of two the floats lie twice as close as above it.
def interval (significand : Nat) (exponent : Int) : Interval :=
  let ulp := power 2 exponent
  let value := significand * ulp
  let below := if significand = leastFull ∧ minExponent < exponent then ulp / 4 else ulp / 2
  { low := value - below, high := value + ulp / 2, closed := significand % 2 = 0 }

-- The point of the grid `10 ^ exponent` that lies in the interval, the nearer one if both
-- neighbours of the value do.
def onGrid? (interval : Interval) (value : Rat) (exponent : Int) : Option Decimal :=
  let unit := power 10 exponent
  let below := (value / unit).floor.toNat
  let lowFits := interval.has (below * unit)
  let highFits := interval.has ((below + 1 : Nat) * unit)
  match lowFits, highFits with
  | true, true => some ⟨(nearest (value / unit)).toNat, exponent⟩
  | true, false => some ⟨below, exponent⟩
  | false, true => some ⟨below + 1, exponent⟩
  | false, false => none

-- Tries ever finer grids; seventeen digits always suffice.
def shortestFrom (interval : Interval) (value : Rat) (exponent : Int) : Nat → Decimal
  | 0 => ⟨(nearest (value / power 10 exponent)).toNat, exponent⟩
  | tries + 1 =>
    (onGrid? interval value exponent).getD (shortestFrom interval value (exponent - 1) tries)

-- The decimal with the fewest digits that reads back as a positive float.
def shortest (significand : Nat) (exponent : Int) : Decimal :=
  let value := significand * power 2 exponent
  shortestFrom (interval significand exponent) value (decimalOrder value) 17

-- How a decimal is written: without an exponent from `10 ^ positionalFrom` up to but not including
-- `10 ^ positionalBelow`, else with at least two exponent digits and a sign.
structure TextStyle where
  positionalFrom : Int
  positionalBelow : Int

def textStyle : TextStyle := ⟨-4, 16⟩

def zeros (count : Nat) : List Char := List.replicate count '0'

def dropTrailingZeros (digits : List Char) : List Char :=
  (digits.reverse.dropWhile (· = '0')).reverse

-- The decimal point stands after the first `point` digits.
def positional (digits : List Char) (point : Int) : List Char :=
  if point ≤ 0 then "0.".toList ++ zeros (-point).toNat ++ digits
  else if digits.length ≤ point.toNat then
    digits ++ zeros (point.toNat - digits.length) ++ ".0".toList
  else digits.take point.toNat ++ '.' :: digits.drop point.toNat

def scientific (digits : List Char) (exponent : Int) : List Char :=
  let fraction := match digits.drop 1 with
    | [] => []
    | rest => '.' :: rest
  let size := Nat.toDigits 10 exponent.natAbs
  let size := if size.length < 2 then '0' :: size else size
  digits.take 1 ++ fraction ++ 'e' :: (if exponent < 0 then '-' else '+') :: size

def Decimal.chars (decimal : Decimal) : List Char :=
  let all := Nat.toDigits 10 decimal.digits
  let order := decimal.exponent + all.length - 1
  let digits := dropTrailingZeros all
  if textStyle.positionalFrom ≤ order ∧ order < textStyle.positionalBelow then
    positional digits (order + 1)
  else scientific digits order

-- The text of a float: `1.0`, `1e+16`, `inf`, `nan`.
def text : Binary64 → String
  | .nan => "nan"
  | .infinite negative => if negative then "-inf" else "inf"
  | .finite negative significand exponent =>
    let magnitude :=
      if significand = 0 then "0.0".toList else (shortest significand exponent).chars
    String.ofList (if negative then '-' :: magnitude else magnitude)

end Binary64

end TimePanel
