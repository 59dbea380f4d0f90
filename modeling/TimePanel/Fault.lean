import TimePanel.Problem

/-! What can go wrong, by cause. -/

namespace TimePanel

inductive Fault where
  -- a whole number beyond the greatest finite float
  | integerTooLarge
  | quotientTooLarge
  | infiniteToInteger
  | nanToInteger
  -- a date outside the years 1 to 9999
  | dateOutOfRange
  -- an offset from universal time of a day or more
  | offsetOutOfRange
  -- a decimal number with too many digits to take its fraction
  | precisionExceeded
  -- a whole number with too many digits to be written
  | digitsExceeded
  | unreadableDate
  | divisionByZero
  | unknownSnapUnit (unit : String)
  -- a value, as it is written inside lists, that names no unit
  | unknownTimeUnit (quoted : String)
  | axesMissing (kind : String)
  | fieldAbsent (name : String)
  -- a list or an object where a value with an identity is needed, another value than a text where
  -- a name is, or an operation between values of different kinds
  | unsuitableValue
  -- an operation that the given kind of value does not have
  | missingOperation
  -- an item of another length where a key with its value is needed
  | unevenPair (place length : Nat)
  | invalid (problems : List Problem)
deriving Repr, DecidableEq

namespace Fault

-- Whether a fault lies in the value at hand: it is malformed, or beyond what can be computed with.
def isOfValue : Fault → Bool
  | .precisionExceeded | .divisionByZero | .unsuitableValue | .missingOperation => false
  | _ => true

def message : Fault → String
  | .integerTooLarge => "int too large to convert to float"
  | .quotientTooLarge => "integer division result too large for a float"
  | .infiniteToInteger => "cannot convert float infinity to integer"
  | .nanToInteger => "cannot convert float NaN to integer"
  | .dateOutOfRange => "date value out of range"
  | .offsetOutOfRange =>
    "offset must be a timedelta strictly between -timedelta(hours=24) and timedelta(hours=24)."
  | .precisionExceeded => "[<class 'decimal.InvalidOperation'>]"
  | .digitsExceeded =>
    "Exceeds the limit (4300 digits) for integer string conversion; " ++
      "use sys.set_int_max_str_digits() to increase the limit"
  | .unreadableDate => "Unknown string format"
  | .divisionByZero => "integer division or modulo by zero"
  | .unknownSnapUnit unit => "Unknown snap unit '" ++ unit ++ "'"
  | .unknownTimeUnit quoted => quoted ++ " is not a valid TimeUnit"
  | .axesMissing kind => kind ++ " chart requires both x and y axis fields"
  | .fieldAbsent name => "Field '" ++ name ++ "' is not present in the result rows"
  | .unevenPair place length =>
    "dictionary update sequence element #" ++ toString place ++ " has length " ++
      toString length ++ "; 2 is required"
  | .unsuitableValue => "unsupported value"
  | .missingOperation => "unsupported operation"
  | .invalid problems => "\n".intercalate (problems.map fun p => p.path ++ ": " ++ p.message)

end Fault

end TimePanel
