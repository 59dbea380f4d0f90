/-! Exact scaling of rational numbers and their rounding to whole numbers. -/

namespace TimePanel.Rounding

-- `base ^ exponent`, for exponents of either sign.
def power (base : Nat) (exponent : Int) : Rat :=
  if 0 ≤ exponent then (Nat.pow base exponent.toNat : Rat)
  else 1 / (Nat.pow base (-exponent).toNat : Rat)

-- The whole number nearest to `q`; a half goes to the even neighbour.
def nearest (q : Rat) : Int :=
  let below := q.floor
  let part := q - below
  if part < 1 / 2 then below
  else if 1 / 2 < part then below + 1
  else if below % 2 = 0 then below else below + 1

-- The decimal digits of `n` without leading zeros; zero has one digit.
def decimalLength (n : Nat) : Nat := (Nat.toDigits 10 n).length

-- For positive `q`, the exponent of the greatest power of two that is at most `q`.
def binaryOrder (q : Rat) : Int :=
  let guess : Int := (q.num.toNat.log2 : Int) - (q.den.log2 : Int)
  if power 2 guess ≤ q then guess else guess - 1

-- For positive `q`, the exponent of the greatest power of ten that is at most `q`.
def decimalOrder (q : Rat) : Int :=
  let guess : Int := (decimalLength q.num.toNat : Int) - (decimalLength q.den : Int)
  if power 10 guess ≤ q then guess else guess - 1

end TimePanel.Rounding
