import TimePanel.Text.Word
import TimePanel.Text.Blank
import TimePanel.Text.Case

/-! Searching a text from left to right, and replacing every place that a recogniser accepts. -/

namespace TimePanel.Text

-- What a recogniser found at the head of a text: how many characters it takes up, and the text
-- that stands for them.
structure Hit where
  length : Nat
  text : List Char
deriving Repr, DecidableEq

-- A recogniser sees the character before the head and the text from the head on.
abbrev Recogniser := Option Char → List Char → Option Hit

-- `skip` characters belong to the last hit and are passed over.
def replaceFrom (recognise : Recogniser) (before : Option Char) (skip : Nat) :
    List Char → List Char
  | [] => []
  | c :: rest =>
    if 0 < skip then replaceFrom recognise (some c) (skip - 1) rest
    else
      match recognise before (c :: rest) with
      | some hit => hit.text ++ replaceFrom recognise (some c) (hit.length - 1) rest
      | none => c :: replaceFrom recognise (some c) 0 rest

-- The text with every hit replaced, where hits are taken from the left and do not overlap.
def replaceAll (recognise : Recogniser) (text : List Char) : List Char :=
  replaceFrom recognise none 0 text

def hitsFrom (recognise : Recogniser) (before : Option Char) (skip : Nat) :
    List Char → List Hit
  | [] => []
  | c :: rest =>
    if 0 < skip then hitsFrom recognise (some c) (skip - 1) rest
    else
      match recognise before (c :: rest) with
      | some hit => hit :: hitsFrom recognise (some c) (hit.length - 1) rest
      | none => hitsFrom recognise (some c) 0 rest

-- The hits that `replaceAll` replaces, in order.
def hits (recognise : Recogniser) (text : List Char) : List Hit :=
  hitsFrom recognise none 0 text

def occurs (recognise : Recogniser) (text : List Char) : Bool :=
  !(hits recognise text).isEmpty

-- Whether `part` stands somewhere in the text.
def contains (part : List Char) : List Char → Bool
  | [] => part.isEmpty
  | c :: rest => part.isPrefixOf (c :: rest) || contains part rest

def endsWith (text ending : List Char) : Bool := ending.isSuffixOf text

-- The text after `word`, if it starts so.
def after? (word text : List Char) : Option (List Char) :=
  if word.isPrefixOf text then some (text.drop word.length) else none

-- The text after `word`, if it starts so when case is ignored.
def afterFolded? : List Char → List Char → Option (List Char)
  | [], text => some text
  | _ :: _, [] => none
  | w :: word, c :: text => if sameLetter w c then afterFolded? word text else none

-- The text after at least one blank.
def afterBlanks? : List Char → Option (List Char)
  | [] => none
  | c :: rest => if isBlank c then some (rest.dropWhile isBlank) else none

end TimePanel.Text
