import TimePanel.Query.Macro

/-! Misuse of macros in queries: finding it, and putting it into the proper form. -/

namespace TimePanel

inductive Misuse where
  -- the filter written as a call
  | call
  -- the filter in quotation marks
  | quotes
  -- blanks between the dollar sign and the name of the filter
  | blanks
  -- a table named with an at sign
  | atSign
deriving DecidableEq, Repr

namespace Misuse

open Text

def all : List Misuse := [.call, .quotes, .blanks, .atSign]

def message : Misuse → String
  | .call =>
    "$__timeFilter is a macro, not a function. Use $__timeFilter without parentheses."
  | .quotes => "$__timeFilter should not be quoted."
  | .blanks => "Found '$ __timeFilter'; the macro must not contain spaces."
  | .atSign => "Table references should not include @ symbols."

def filterToken : List Char := TimeMacro.filter.token

def isQuote (c : Char) : Bool := c = '"' || c = '\''

def hit (text rest replacement : List Char) : Hit :=
  ⟨text.length - rest.length, replacement⟩

-- The filter, blanks, and everything from an opening bracket to the first closing one.
def recogniseCall : Recogniser := fun _ text => do
  let rest ← after? filterToken text
  match rest.dropWhile isBlank with
  | '(' :: inside =>
    match inside.dropWhile (· ≠ ')') with
    | _ :: rest => some (hit text rest filterToken)
    | [] => none
  | _ => none

def recogniseQuotes : Recogniser := fun _ text =>
  match text with
  | opening :: rest =>
    if !isQuote opening then none
    else
      match after? filterToken rest with
      | some (closing :: rest) =>
        if isQuote closing then some (hit text rest filterToken) else none
      | _ => none
  | [] => none

def recogniseBlanks : Recogniser := fun _ text =>
  match text with
  | '$' :: rest => do
    let name ← afterBlanks? rest
    some (hit text (← after? (filterToken.drop 1) name) filterToken)
  | _ => none

-- A word that introduces a table, blanks, and a name after an at sign.
def recogniseAtSign : Recogniser := fun before text =>
  if !atBoundary before text then none
  else do
    let rest ← afterFolded? "from".toList text <|> afterFolded? "join".toList text
    match ← afterBlanks? rest with
    | '@' :: table =>
      let (name, rest) := table.span isWord
      if name.isEmpty then none
      else some (hit text rest (text.take (text.length - table.length - 1) ++ name))
    | _ => none

def recognise : Misuse → Recogniser
  | .call => recogniseCall
  | .quotes => recogniseQuotes
  | .blanks => recogniseBlanks
  | .atSign => recogniseAtSign

def occursIn (misuse : Misuse) (query : List Char) : Bool := occurs misuse.recognise query

def repair (misuse : Misuse) (query : List Char) : List Char := replaceAll misuse.recognise query

end Misuse

namespace Sanitizer

-- The kinds of misuse that a query shows.
def misuses (query : List Char) : List Misuse := Misuse.all.filter (·.occursIn query)

def problems (query : List Char) : List String := (misuses query).map (·.message)

-- Puts the bare macro in place of every misused filter.
def repairFilter (query : List Char) : List Char :=
  Misuse.blanks.repair (Misuse.quotes.repair (Misuse.call.repair query))

def repair (query : List Char) : List Char := Misuse.atSign.repair (repairFilter query)

-- The repaired query, and the problems that the given one shows.
def sanitize (query : List Char) : List Char × List String := (repair query, problems query)

end Sanitizer

end TimePanel
