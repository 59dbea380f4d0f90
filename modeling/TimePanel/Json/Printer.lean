import TimePanel.Cell.Text

/-! Writing cells as JSON text. -/

namespace TimePanel.Json

def hexDigits4 (code : Nat) : List Char :=
  let digits := Nat.toDigits 16 code
  List.replicate (4 - digits.length) '0' ++ digits

-- Quotes, backslashes and control characters are escaped, all else stands as it is.
def escape (c : Char) : List Char :=
  if c = '"' then ['\\', '"']
  else if c = '\\' then ['\\', '\\']
  else if c = '\n' then ['\\', 'n']
  else if c = '\r' then ['\\', 'r']
  else if c = '\t' then ['\\', 't']
  else if c.toNat = 8 then ['\\', 'b']
  else if c.toNat = 12 then ['\\', 'f']
  else if c.toNat < 32 then '\\' :: 'u' :: hexDigits4 c.toNat
  else [c]

def stringChars (s : String) : List Char := '"' :: s.toList.flatMap escape ++ ['"']

-- Layout of lists and objects: on one line, or with one item on a line and the given indent.
inductive Layout where
  | compact
  | indented (step : Nat)
deriving DecidableEq, Repr

namespace Layout

def lineBreak (layout : Layout) (depth : Nat) : List Char :=
  match layout with
  | .compact => []
  | .indented step => '\n' :: List.replicate (step * depth) ' '

def colon : Layout → List Char
  | .compact => [':']
  | .indented _ => [':', ' ']

end Layout

def enclose (opening closing : Char) (layout : Layout) (depth : Nat)
    (parts : List (List Char)) : List Char :=
  if parts.isEmpty then [opening, closing]
  else
    let separator := ',' :: layout.lineBreak (depth + 1)
    opening :: layout.lineBreak (depth + 1) ++ (parts.intersperse separator).flatten ++
      layout.lineBreak depth ++ [closing]

mutual

def chars (layout : Layout) (depth : Nat) : Cell → List Char
  | .null => "null".toList
  | .bool b => (if b then "true" else "false").toList
  | .int n => (toString n).toList
  | .float .nan => "NaN".toList
  | .float (.infinite negative) => (if negative then "-Infinity" else "Infinity").toList
  | .float x => x.text.toList
  | .text s => stringChars s
  | .dateTime d => stringChars d.text
  | .date d => stringChars (Calendar.dateText d)
  | .time t => stringChars (Calendar.timeText t)
  | .instant i => (toString i.ns).toList
  | .unit u => stringChars u.name
  | .list items => enclose '[' ']' layout depth (itemChars layout (depth + 1) items)
  | .object fields => enclose '\x7b' '\x7d' layout depth (fieldChars layout (depth + 1) fields)
  | .record _ fields =>
    enclose '\x7b' '\x7d' layout depth (fieldChars layout (depth + 1) fields)

def itemChars (layout : Layout) (depth : Nat) : List Cell → List (List Char)
  | [] => []
  | item :: rest => chars layout depth item :: itemChars layout depth rest

def fieldChars (layout : Layout) (depth : Nat) : List (String × Cell) → List (List Char)
  | [] => []
  | (key, value) :: rest =>
    (stringChars key ++ layout.colon ++ chars layout depth value) ::
      fieldChars layout depth rest

end

def render (layout : Layout) (cell : Cell) : String := String.ofList (chars layout 0 cell)

end TimePanel.Json
