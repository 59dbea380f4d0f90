import TimePanel.Cell.Basic

/-! Reading JSON text into cells. Beside the standard's values the words for infinity and
not-a-number are read. A fault is reported with the place at which reading stopped. -/

namespace TimePanel.Json

-- Places count from the end of the text: how many characters are left there.
inductive ReadFault where
  | malformed (left : Nat)
  | numberTooLong
  | tooDeep
deriving DecidableEq, Repr

-- What a reader accepts beyond its grammar.
structure Dialect where
  -- lists and objects inside one another
  maxDepth : Nat
  -- halves of surrogate pairs on their own are read as the replacement character
  toleratesHalfPairs : Bool
  -- a mark of the byte order may stand in front
  toleratesOrderMark : Bool

-- The rules for saved settings.
def Dialect.strict : Dialect := ⟨200, false, false⟩

-- The rules for requests.
def Dialect.lenient : Dialect := ⟨100000, true, true⟩

-- What was read and the text after it.
abbrev Reads (α : Type) := Except ReadFault (α × List Char)

def isSpace (c : Char) : Bool := c = ' ' || c = '\t' || c = '\n' || c = '\r'

def skipSpace (text : List Char) : List Char := text.dropWhile isSpace

def malformedAt {α : Type} (text : List Char) : Except ReadFault α :=
  .error (.malformed text.length)

def hexValue? (c : Char) : Option Nat :=
  if '0' ≤ c ∧ c ≤ '9' then some (c.toNat - '0'.toNat)
  else if 'a' ≤ c ∧ c ≤ 'f' then some (c.toNat - 'a'.toNat + 10)
  else if 'A' ≤ c ∧ c ≤ 'F' then some (c.toNat - 'A'.toNat + 10)
  else none

-- The code unit written by four hexadecimal digits.
def codeUnit? (a b c d : Char) : Option Nat := do
  return (((← hexValue? a) * 16 + (← hexValue? b)) * 16 + (← hexValue? c)) * 16 + (← hexValue? d)

def isHighHalf (unit : Nat) : Bool := 0xD800 ≤ unit && unit < 0xDC00
def isLowHalf (unit : Nat) : Bool := 0xDC00 ≤ unit && unit < 0xE000

def joinHalves (high low : Nat) : Char :=
  Char.ofNat (0x10000 + (high - 0xD800) * 0x400 + (low - 0xDC00))

def simpleEscape? (c : Char) : Option Char :=
  if c = '"' ∨ c = '\\' ∨ c = '/' then some c
  else if c = 'b' then some '\x08'
  else if c = 'f' then some '\x0c'
  else if c = 'n' then some '\n'
  else if c = 'r' then some '\r'
  else if c = 't' then some '\t'
  else none

-- The code points of a string up to its closing quote, and the text after that. The opening quote
-- stands `opening` characters before the end. An escaped code unit must be followed by another
-- character, at least the closing quote.
def readUnits (opening : Nat) : List Char → Reads (List Nat)
  | [] => .error (.malformed opening)
  | '"' :: rest => .ok ([], rest)
  | '\\' :: 'u' :: a :: b :: c :: d :: rest =>
    match codeUnit? a b c d with
    | some unit =>
      if rest.isEmpty then .error (.malformed 5)
      else (readUnits opening rest).map fun (units, left) => (unit :: units, left)
    | none => .error (.malformed (rest.length + 5))
  | '\\' :: c :: rest =>
    match simpleEscape? c with
    | some value => (readUnits opening rest).map fun (units, left) => (value.toNat :: units, left)
    | none => .error (.malformed (rest.length + if c = 'u' then 1 else 2))
  | ['\\'] => .error (.malformed opening)
  | c :: rest =>
    if c.toNat < 32 then .error (.malformed (rest.length + 1))
    else (readUnits opening rest).map fun (units, left) => (c.toNat :: units, left)

-- Joins the halves of surrogate pairs; `none` if a half stands alone and is not tolerated.
def joinUnits (tolerant : Bool) : List Nat → Option (List Char)
  | [] => some []
  | [unit] =>
    if isHighHalf unit || isLowHalf unit then
      if tolerant then some ['\ufffd'] else none
    else some [Char.ofNat unit]
  | unit :: next :: rest =>
    if isHighHalf unit && isLowHalf next then
      (joinUnits tolerant rest).map (joinHalves unit next :: ·)
    else if isHighHalf unit || isLowHalf unit then
      if tolerant then (joinUnits tolerant (next :: rest)).map ('\ufffd' :: ·) else none
    else (joinUnits tolerant (next :: rest)).map (Char.ofNat unit :: ·)

-- The rest of a string after its opening quote.
def readString (dialect : Dialect) (text : List Char) : Except ReadFault (String × List Char) := do
  let (units, left) ← readUnits (text.length + 1) text
  match joinUnits dialect.toleratesHalfPairs units with
  | some chars => return (String.ofList chars, left)
  | none => malformedAt left

def isAsciiDigit (c : Char) : Bool := '0' ≤ c && c ≤ '9'

def digitsOf (text : List Char) : List Char × List Char := text.span isAsciiDigit

-- A fraction needs a digit after its point; without one the number ends before the point.
def fractionOf : List Char → List Char × List Char
  | '.' :: rest =>
    match digitsOf rest with
    | ([], _) => ([], '.' :: rest)
    | (digits, left) => (digits, left)
  | text => ([], text)

-- The digits of an exponent with their sign. Without a digit the number ends before the mark.
def exponentOf (text : List Char) : Option (Bool × List Char) × List Char :=
  match text with
  | mark :: rest =>
    if mark = 'e' ∨ mark = 'E' then
      let (negative, unsigned) := match rest with
        | '-' :: more => (true, more)
        | '+' :: more => (false, more)
        | _ => (false, rest)
      match digitsOf unsigned with
      | ([], _) => (none, text)
      | (digits, left) => (some (negative, digits), left)
    else (none, text)
  | [] => (none, [])

def naturalOf (digits : List Char) : Nat :=
  digits.foldl (fun n c => 10 * n + (c.toNat - '0'.toNat)) 0

-- A number at the head of the text: whole numbers without fraction and exponent, else floats. A
-- leading zero stands alone.
def readNumber (text : List Char) : Reads Cell :=
  let (negative, unsigned) := match text with
    | '-' :: rest => (true, rest)
    | _ => (false, text)
  let (whole, rest) := match unsigned with
    | '0' :: rest => (['0'], rest)
    | _ => digitsOf unsigned
  if whole.isEmpty then malformedAt text
  else
    let (fraction, rest) := fractionOf rest
    let (exponent, rest) := exponentOf rest
    if fraction.isEmpty ∧ exponent.isNone then
      if Literal.maxDigits < whole.length then .error .numberTooLong
      else
        let n : Int := naturalOf whole
        .ok (.int (if negative then -n else n), rest)
    else
      let power : Int := match exponent with
        | some (true, digits) => -(naturalOf digits)
        | some (false, digits) => naturalOf digits
        | none => 0
      .ok (.float (Literal.ofDecimal negative (naturalOf (whole ++ fraction))
        (power - fraction.length)), rest)

def words : List (List Char × Cell) :=
  [("null".toList, .null), ("true".toList, .bool true), ("false".toList, .bool false),
   ("NaN".toList, .float .nan), ("Infinity".toList, .float (.infinite false)),
   ("-Infinity".toList, .float (.infinite true))]

-- A value without parts other than a string: one of the known words or a number.
def readScalar (text : List Char) : Reads Cell :=
  match words.find? fun (word, _) => word.isPrefixOf text with
  | some (word, value) => .ok (value, text.drop word.length)
  | none => readNumber text

-- A field set again keeps its place and takes the new value.
def setField (fields : List (String × Cell)) (key : String) (value : Cell) :
    List (String × Cell) :=
  Row.set fields key value

-- The text after an expected character.
def expect (c : Char) : List Char → Except ReadFault (List Char)
  | d :: rest => if c = d then .ok rest else malformedAt (d :: rest)
  | [] => malformedAt []

mutual

-- Every step uses up a character, so `fuel` for two steps a character always suffices.
def readValue (dialect : Dialect) (depth fuel : Nat) (text : List Char) : Reads Cell :=
  match fuel with
  | 0 => malformedAt text
  | fuel + 1 =>
    match text with
    | '"' :: rest => (readString dialect rest).map fun (s, left) => (.text s, left)
    | '[' :: rest =>
      if dialect.maxDepth ≤ depth then .error .tooDeep
      else
        match skipSpace rest with
        | ']' :: left => .ok (.list [], left)
        | items => readItems dialect (depth + 1) fuel [] items
    | '\x7b' :: rest =>
      if dialect.maxDepth ≤ depth then .error .tooDeep
      else
        match skipSpace rest with
        | '\x7d' :: left => .ok (.object [], left)
        | fields => readFields dialect (depth + 1) fuel [] fields
    | _ => readScalar text

-- The items of a list from the next one on, where `before` holds those read so far.
def readItems (dialect : Dialect) (depth fuel : Nat) (before : List Cell) (text : List Char) :
    Except ReadFault (Cell × List Char) :=
  match fuel with
  | 0 => malformedAt text
  | fuel + 1 => do
    let (item, left) ← readValue dialect depth fuel text
    match skipSpace left with
    | ']' :: left => return (.list (before ++ [item]), left)
    | left =>
      let left ← expect ',' left
      readItems dialect depth fuel (before ++ [item]) (skipSpace left)

-- The fields of an object from the next one on, where `before` holds those read so far.
def readFields (dialect : Dialect) (depth fuel : Nat) (before : List (String × Cell))
    (text : List Char) : Except ReadFault (Cell × List Char) :=
  match fuel with
  | 0 => malformedAt text
  | fuel + 1 => do
    let (key, left) ← readString dialect (← expect '"' text)
    let (value, left) ←
      readValue dialect depth fuel (skipSpace (← expect ':' (skipSpace left)))
    let fields := setField before key value
    match skipSpace left with
    | '\x7d' :: left => return (.object fields, left)
    | left =>
      let left ← expect ',' left
      readFields dialect depth fuel fields (skipSpace left)

end

def orderMark : Char := '\ufeff'

-- One value that fills the text.
def read (dialect : Dialect) (text : String) : Except ReadFault Cell := do
  let chars := match text.toList with
    | c :: rest => if c = orderMark ∧ dialect.toleratesOrderMark then rest else c :: rest
    | [] => []
  let (cell, left) ← readValue dialect 0 (2 * chars.length + 2) (skipSpace chars)
  match skipSpace left with
  | [] => return cell
  | left => malformedAt left

end TimePanel.Json
