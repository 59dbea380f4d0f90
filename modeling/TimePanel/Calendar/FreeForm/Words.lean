import TimePanel.Calendar.FreeForm.Token
import TimePanel.Text.Case

/-! The words of freely written dates. -/

namespace TimePanel.FreeForm

def place? (table : List (List String)) (token : Token) : Option Nat :=
  let word := String.ofList (Text.lower token)
  table.findIdx? (·.contains word)

-- The day of the week, where Monday is 0.
def weekday? : Token → Option Nat :=
  place? [["mon", "monday"], ["tue", "tuesday"], ["wed", "wednesday"], ["thu", "thursday"],
    ["fri", "friday"], ["sat", "saturday"], ["sun", "sunday"]]

-- The month, where January is 1.
def month? (token : Token) : Option Nat :=
  (place? [["jan", "january"], ["feb", "february"], ["mar", "march"], ["apr", "april"],
    ["may"], ["jun", "june"], ["jul", "july"], ["aug", "august"],
    ["sep", "sept", "september"], ["oct", "october"], ["nov", "november"],
    ["dec", "december"]] token).map (· + 1)

-- The part of the time that a label names: 0 for hours, 1 for minutes, 2 for seconds.
def clockPart? : Token → Option Nat :=
  place? [["h", "hour", "hours"], ["m", "minute", "minutes"], ["s", "second", "seconds"]]

-- Half of the day: 0 before noon, 1 after.
def halfDay? : Token → Option Nat := place? [["am", "a"], ["pm", "p"]]

-- Words and marks that carry no meaning of their own.
def isFiller (token : Token) : Bool :=
  [" ", ".", ",", ";", "-", "/", "'", "at", "on", "and", "ad", "m", "t", "of", "st", "nd", "rd",
   "th"].contains (String.ofList (Text.lower token))

def isOf (token : Token) : Bool := Text.lower token = "of".toList

def isUniversal (token : Token) : Bool :=
  ["utc", "gmt", "z"].contains (String.ofList (Text.lower token))

-- The offset that a zone's name implies as it stands.
def offsetOfName? (token : Token) : Option Int :=
  if ["utc", "gmt", "z"].contains (String.ofList token) then some 0 else none

-- Zone names are short words in capitals, or a small z.
def isZoneName (token : Token) : Bool :=
  token.length ≤ 5 && (token.all (fun c => 'A' ≤ c && c ≤ 'Z') || token = ['z'])

end TimePanel.FreeForm
