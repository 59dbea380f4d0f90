import TimePanel.Column

/-! Aliases given to the time column, and their uses for grouping and ordering. -/

namespace TimePanel

namespace TimeAlias

open Text

def isQualified (before : Option Char) : Bool :=
  before.any fun c => isWord c || c = '.' || c = '$'

-- The column, `AS` and what follows, when the column is not part of a longer name.
def afterColumnAs? (column : List Char) (before : Option Char) (text : List Char) :
    Option (List Char) := do
  if isQualified before then none
  else
    let rest ← afterFolded? "as".toList (← afterBlanks? (← afterFolded? column text))
    afterBlanks? rest

-- `<column> AS <alias>`, where the alias is what is found.
def recogniseAny (column : List Char) : Recogniser := fun before text => do
  let (name, rest) := (← afterColumnAs? column before text).span isWord
  if name.isEmpty then none else some ⟨text.length - rest.length, name⟩

-- The last character of what a recogniser took, for the boundary after it.
def endsAtBoundary (text rest : List Char) : Bool :=
  atBoundary ((text.take (text.length - rest.length)).getLast?) rest

-- `<column> AS <alias>` for a given alias, which becomes the column alone.
def recogniseOwn (column given : List Char) : Recogniser := fun before text => do
  let rest ← afterFolded? given (← afterColumnAs? column before text)
  if endsAtBoundary text rest then some ⟨text.length - rest.length, column⟩ else none

-- `<verb> BY <alias>`, which comes to use the column.
def recogniseUse (verb : String) (column given : List Char) : Recogniser :=
  fun before text =>
    if !atBoundary before text then none
    else do
      let rest ← afterBlanks? (← afterFolded? (lower verb.toList) text)
      let rest ← afterFolded? given (← afterBlanks? (← afterFolded? "by".toList rest))
      if endsAtBoundary text rest then
        some ⟨text.length - rest.length, verb.toList ++ " BY ".toList ++ column⟩
      else none

-- The aliases of the column, each once, in order of appearance.
def aliases (column query : List Char) : List (List Char) :=
  (hits (recogniseAny column) query).foldl
    (fun found hit => if found.contains hit.text then found else found ++ [hit.text]) []

-- An alias that is the column's own name is dropped; uses of another one name the column instead.
def resolve (column given query : List Char) : List Char :=
  if lower given = lower column then replaceAll (recogniseOwn column given) query
  else
    replaceAll (recogniseUse "ORDER" column given)
      (replaceAll (recogniseUse "GROUP" column given) query)

-- Makes grouping and ordering refer to the column itself.
def resolveAll (query column : List Char) : List Char :=
  (aliases column query).foldl (fun query given => resolve column given query) query

end TimeAlias

end TimePanel
