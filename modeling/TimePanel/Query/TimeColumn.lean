import TimePanel.Column
import TimePanel.Query.Macro

/-! The column that holds time in a query, and the unit that it counts in. -/

namespace TimePanel

namespace TimeColumn

open Text

-- The column that is assumed when nothing points to another one.
def fallback : String := "__timestamp"

-- Names of columns that commonly hold time, in the order in which they are looked for.
def wellKnown : List String :=
  ["__timestamp", "timestamp", "time", "created_at", "updated_at", "event_time", "log_time"]

def isNamePart (c : Char) : Bool := isWord c || c = '.'

-- `SELECT <name> AS time`, where the name is what is found.
def recogniseSelection : Recogniser := fun before text =>
  if !atBoundary before text then none
  else do
    let selected ← afterBlanks? (← afterFolded? "select".toList text)
    let (name, rest) := selected.span isNamePart
    let rest ← afterFolded? "as".toList (← afterBlanks? rest)
    let rest ← afterFolded? "time".toList (← afterBlanks? rest)
    if name.isEmpty ∨ rest.head?.any isWord then none
    else some ⟨text.length - rest.length, name⟩

-- `AS <name>`, which becomes a blank.
def recogniseAlias : Recogniser := fun before text =>
  if !atBoundary before text then none
  else do
    let (name, rest) := (← afterBlanks? (← afterFolded? "as".toList text)).span isWord
    if name.isEmpty then none else some ⟨text.length - rest.length, [' ']⟩

def recogniseName (name : List Char) : Recogniser := fun before text =>
  if before.any isNamePart then none
  else do
    let rest ← after? name text
    if rest.head?.any isWord then none else some ⟨name.length, name⟩

-- The best guess at the time column of a query: the one selected under the name `time`, or else
-- the first well-known name outside of macros and aliases.
def detect (query : List Char) : List Char :=
  match hits recogniseSelection query with
  | selection :: _ => selection.text
  | [] =>
    let plain := replaceAll recogniseAlias (replaceAll (TimeMacro.recogniseAny [' ']) query)
    let scanned := lower plain
    ((wellKnown.find? fun name => occurs (recogniseName name.toList) scanned).getD
      fallback).toList

def mentions (name : List Char) (word : String) : Bool := contains word.toList name

def isOneOf (name : List Char) (words : List String) : Bool :=
  words.any (·.toList = name)

def bigintTypes : List String := ["bigint", "int64", "long", "ubigint", "uint64"]

-- The unit that a column's name and type indicate; `none` for columns that hold native dates.
def inferUnit (column : String) (dataType : String) : Option TimeUnit :=
  let name := folded column
  let type := folded dataType
  if mentions name "_ns" then some .nanoseconds
  else if mentions name "_us" ∨ mentions name "_\u03bcs" then some .microseconds
  else if mentions name "_ms" then some .milliseconds
  else if endsWith name "_s".toList then some .seconds
  else if name = fallback.toList then some .nanoseconds
  else if ColumnDescriptor.hasNativeTimeType dataType then none
  else
    let temporal :=
      mentions name "time" || mentions name "date" || isOneOf name ["created_at", "updated_at"]
    if isOneOf type bigintTypes ∧ temporal then
      some (if mentions name "time" then .nanoseconds else .milliseconds)
    else if mentions type "int" ∧ temporal then some .seconds
    else none

-- The unit that the schema declares, or else the one that is inferred.
def unit (column : String) (schema : Option ColumnDescriptor) : Option TimeUnit :=
  match schema.bind (·.unit) with
  | some unit => some unit
  | none => inferUnit column (schema.elim "" (·.dataType))

-- Whether the column is compared with numbers, as opposed to dates in quotation marks.
def countsTime (column : String) (unit : Option TimeUnit) : Bool :=
  let name := folded column
  isOneOf name ["__timestamp", "timestamp"] || unit.isSome ||
    ["epoch", "_ts", "_ns", "_ms", "_us"].any (mentions name)

-- The unit of the numbers that a column is compared with.
def unitOr (column : String) (unit : Option TimeUnit) : TimeUnit :=
  unit.getD (if folded column = fallback.toList then .nanoseconds else .milliseconds)

end TimeColumn

end TimePanel
