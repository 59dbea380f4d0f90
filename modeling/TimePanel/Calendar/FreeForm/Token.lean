import TimePanel.Text.Letter
import TimePanel.Text.Digit
import TimePanel.Text.Blank

/-! Splitting freely written dates into words, numbers and single marks. -/

namespace TimePanel.FreeForm

open Text

abbrev Token := List Char

-- What a token has shown to be so far. A dotted one has points inside that may later split it.
inductive Kind where
  | word
  | number
  | dottedWord
  | dottedNumber
deriving DecidableEq, Repr

-- A token in reverse, and the text after it. `lettered` tells that a character was read in a word.
structure Run where
  reversed : List Char
  kind : Kind
  lettered : Bool
  rest : List Char

-- Reads a token on as far as it goes. Words and numbers may follow each other after a point, and a
-- comma may stand in a number after two digits.
def run (kind : Kind) (lettered : Bool) (reversed : List Char) : List Char → Run
  | [] => ⟨reversed, kind, lettered, []⟩
  | c :: rest =>
    let stop (lettered : Bool) : Run := ⟨reversed, kind, lettered, c :: rest⟩
    let afterPoint := reversed.head? = some '.'
    match kind with
    | .word =>
      if isLetter c then run .word true (c :: reversed) rest
      else if c = '.' then run .dottedWord true (c :: reversed) rest
      else stop true
    | .number =>
      if isDigit c then run .number lettered (c :: reversed) rest
      else if c = '.' ∨ (c = ',' ∧ 2 ≤ reversed.length) then
        run .dottedNumber lettered (c :: reversed) rest
      else stop lettered
    | .dottedWord =>
      if c = '.' ∨ isLetter c then run .dottedWord true (c :: reversed) rest
      else if isDigit c ∧ afterPoint then run .dottedNumber true (c :: reversed) rest
      else stop true
    | .dottedNumber =>
      if c = '.' ∨ isDigit c then run .dottedNumber lettered (c :: reversed) rest
      else if isLetter c ∧ afterPoint then run .dottedWord lettered (c :: reversed) rest
      else stop lettered

def isMark (c : Char) : Bool := c = '.' || c = ','

def pieces (current : List Char) : List Char → List Token
  | [] => [current.reverse]
  | c :: rest =>
    if isMark c then current.reverse :: [c] :: pieces [] rest else pieces (c :: current) rest

-- A dotted token stays whole only as a number with one point inside.
def Run.tokens (run : Run) : List Token :=
  let token := run.reversed.reverse
  let dotted := run.kind = .dottedWord || run.kind = .dottedNumber
  if dotted ∧ (run.lettered ∨ 1 < token.count '.' ∨ run.reversed.head?.any isMark) then
    (pieces [] token).filter (!·.isEmpty)
  else if run.kind = .dottedNumber ∧ token.count '.' = 0 then
    [token.map fun c => if c = ',' then '.' else c]
  else [token]

def tokensFrom : Nat → List Char → List Token
  | 0, _ | _, [] => []
  | fuel + 1, c :: rest =>
    if isLetter c then
      let run := run .word false [c] rest
      run.tokens ++ tokensFrom fuel run.rest
    else if isDigit c then
      let run := run .number false [c] rest
      run.tokens ++ tokensFrom fuel run.rest
    else [if isBlank c then ' ' else c] :: tokensFrom fuel rest

-- The tokens of a text, every blank one of its own. Null characters do not count.
def tokens (text : List Char) : List Token :=
  let text := text.filter (· ≠ '\x00')
  tokensFrom text.length text

end TimePanel.FreeForm
