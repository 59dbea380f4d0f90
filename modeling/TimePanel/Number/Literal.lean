import TimePanel.Number.Basic
import TimePanel.Text.Digit
import TimePanel.Text.Blank

/-! Reading numbers from text. Digits of every script count, and single underscores may stand
between digits. -/

namespace TimePanel.Literal

open Text

-- Digit values read so far, with the text that follows them.
structure Digits where
  values : List Nat
  rest : List Char

def digitsFrom (afterDigit : Bool) : List Char → Digits
  | [] => ⟨[], []⟩
  | c :: rest =>
    match decimalValue? c with
    | some value =>
      let tail := digitsFrom true rest
      ⟨value :: tail.values, tail.rest⟩
    | none =>
      if afterDigit ∧ c = '_' ∧ rest.head?.any isDecimal then digitsFrom false rest
      else ⟨[], c :: rest⟩

-- The longest run of digits at the start, in which one underscore may stand between two digits.
def digits (text : List Char) : Digits := digitsFrom false text

def ofDigits (values : List Nat) : Nat := values.foldl (fun n value => 10 * n + value) 0

-- An optional sign; `true` for a minus.
def sign : List Char → Bool × List Char
  | '-' :: rest => (true, rest)
  | '+' :: rest => (false, rest)
  | text => (false, text)

-- Whole numbers of more digits are not read.
def maxDigits : Nat := 4300

-- A whole number that fills the text.
def integer? (text : List Char) : Option Int :=
  let (negative, unsigned) := sign text
  let ⟨values, rest⟩ := digits unsigned
  if rest.isEmpty ∧ !values.isEmpty ∧ values.length ≤ maxDigits then
    some (if negative then -(ofDigits values : Int) else ofDigits values)
  else none

-- The float nearest to `significand * 10 ^ exponent`. Exponents far outside the range of floats
-- are settled by the order of the value alone.
def ofDecimal (negative : Bool) (significand : Nat) (exponent : Int) : Binary64 :=
  if significand = 0 then Binary64.zero negative
  else
    let order := exponent + Rounding.decimalLength significand
    if 400 < order then .infinite negative
    else if order < -400 then Binary64.zero negative
    else Binary64.ofMagnitude negative (significand * Rounding.power 10 exponent)

def named? (negative : Bool) (word : List Char) : Option Binary64 :=
  let word := String.ofList (word.map Char.toLower)
  if word = "inf" ∨ word = "infinity" then some (.infinite negative)
  else if word = "nan" then some .nan
  else none

def fraction : List Char → Digits
  | '.' :: rest => digits rest
  | text => ⟨[], text⟩

-- The power of ten after a mantissa; `none` if the text is no exponent.
def exponent? : List Char → Option Int
  | [] => some 0
  | e :: rest =>
    if e = 'e' ∨ e = 'E' then
      let (negative, unsigned) := sign rest
      let ⟨values, rest⟩ := digits unsigned
      if rest.isEmpty ∧ !values.isEmpty then
        some (if negative then -(ofDigits values : Int) else ofDigits values)
      else none
    else none

-- A decimal or named float that fills the text.
def float? (text : List Char) : Option Binary64 :=
  let (negative, unsigned) := sign text
  match named? negative unsigned with
  | some value => some value
  | none =>
    let whole := digits unsigned
    let part := fraction whole.rest
    if whole.values.isEmpty ∧ part.values.isEmpty then none
    else
      (exponent? part.rest).map fun exponent =>
        ofDecimal negative (ofDigits (whole.values ++ part.values))
          (exponent - part.values.length)

-- A number that fills the text between blanks: a whole number if possible, else a float.
def number? (text : List Char) : Option Number :=
  let text := strip text
  match integer? text with
  | some n => some (.int n)
  | none => (float? text).map .float

end TimePanel.Literal
