import TimePanel.Text.Letter
import TimePanel.Text.Digit

/-! Word characters and the boundaries between words. -/

namespace TimePanel.Text

-- Letters, digits and other numerals of every script, and the underscore.
def isWord (c : Char) : Bool := isLetter c || isNumeric c || c = '_'

-- Whether a word starts or ends between the character before and the rest of the text.
def atBoundary (before : Option Char) (rest : List Char) : Bool :=
  before.any isWord != rest.head?.any isWord

end TimePanel.Text
