import TimePanel.Json.Printer
import TimePanel.Json.Reader
import TimePanel.Schema.Scalar

/-! The format in which records are kept outside of the program. -/

namespace TimePanel

-- What the library does through which records are kept: it writes fields as a text, reads a text,
-- and checks the values of fields with a declared type. No more is known of it than is assumed
-- where it is needed.
structure RecordFormat where
  write : List (String × Cell) → String
  read? : String → Option Cell
  text : Cell → Checked String
  boolean : Cell → Checked Bool
  -- the place of a value among the allowed ones
  choice : (allowed : List String) → Cell → Checked (Fin allowed.length)

-- The format that is run: indented JSON, with the checks that requests pass too.
def RecordFormat.json : RecordFormat where
  write fields := Json.render (.indented 2) (.object fields)
  read? text := (Json.read .strict text).toOption
  text := Schema.text
  boolean := Schema.boolean
  choice := Schema.choice

end TimePanel
