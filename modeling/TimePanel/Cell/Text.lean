import TimePanel.Cell.Basic
import TimePanel.Number.Shortest
import TimePanel.Text.Quoted

/-! The text of a cell, as it stands on labels and in messages. Inside lists and objects texts are
quoted and dates are spelled out. -/

namespace TimePanel

namespace RecordKind

def name : RecordKind → String
  | .columnDescriptor => "ColumnDescriptor"
  | .fieldMapping => "FieldMapping"
  | .styling => "Styling"
  | .timeFormatting => "TimeFormatting"
  | .themeColors => "ThemeColors"
  | .chartConfiguration => "ChartConfiguration"
  | .interpolationContext => "InterpolationContext"
  | .relativeRange => "RelativeTimeRange"
  | .absoluteRange => "AbsoluteTimeRange"
  | .queryRange => "QueryTimeRange"
  | .quickRangeItem => "QuickRangeItem"

def all : List RecordKind :=
  [.columnDescriptor, .fieldMapping, .styling, .timeFormatting, .themeColors, .chartConfiguration,
   .interpolationContext, .relativeRange, .absoluteRange, .queryRange, .quickRangeItem]

def ofName? (name : String) : Option RecordKind := all.find? (·.name = name)

end RecordKind

namespace Cell

def commaSeparated (parts : List String) : String := ", ".intercalate parts

-- Seconds are written if they or the fraction are not zero, the fraction if it is not zero.
def clockParts (time : TimeOfDay) : List String :=
  [toString time.hour, toString time.minute] ++
    (if time.second = 0 ∧ time.micro = 0 then [] else [toString time.second]) ++
    (if time.micro = 0 then [] else [toString time.micro])

-- Offsets count whole days, rounded down, and seconds of a day.
def offsetName (offset : Int) : String :=
  if offset = 0 then "datetime.timezone.utc"
  else
    let days := offset / 86400
    let seconds := offset % 86400
    "datetime.timezone(datetime.timedelta(" ++
      (if days = 0 then "" else "days=" ++ toString days ++ ", ") ++
      "seconds=" ++ toString seconds ++ "))"

def quotedDateTime (value : DateTime) : String :=
  let date := value.wall.date
  "datetime.datetime(" ++
    commaSeparated ([toString date.year, toString date.month, toString date.day] ++
      clockParts value.wall.time ++
      (value.offset.elim [] fun offset => ["tzinfo=" ++ offsetName offset])) ++ ")"

def unitConstant (unit : TimeUnit) : String :=
  "TimeUnit." ++ unit.name.map Char.toUpper

mutual

-- The text of a cell inside a list or an object.
def quoted : Cell → String
  | .null => "None"
  | .bool b => if b then "True" else "False"
  | .int n => toString n
  | .float x => x.text
  | .text s => Text.quoted s
  | .dateTime d => quotedDateTime d
  | .date d =>
    "datetime.date(" ++ commaSeparated [toString d.year, toString d.month, toString d.day] ++ ")"
  | .time t => "datetime.time(" ++ commaSeparated (clockParts t) ++ ")"
  | .instant i => "Instant(ns=" ++ toString i.ns ++ ")"
  | .unit u => "<" ++ unitConstant u ++ ": " ++ Text.quoted u.name ++ ">"
  | .list items => "[" ++ commaSeparated (quotedItems items) ++ "]"
  | .object fields => "\x7b" ++ commaSeparated (quotedFields fields) ++ "\x7d"
  | .record kind fields =>
    kind.name ++ "(" ++ commaSeparated (assignedFields fields) ++ ")"

def quotedItems : List Cell → List String
  | [] => []
  | item :: rest => quoted item :: quotedItems rest

def quotedFields : List (String × Cell) → List String
  | [] => []
  | (key, value) :: rest => (Text.quoted key ++ ": " ++ quoted value) :: quotedFields rest

def assignedFields : List (String × Cell) → List String
  | [] => []
  | (key, value) :: rest => (key ++ "=" ++ quoted value) :: assignedFields rest

end

-- Whole numbers with more digits are not written.
def writtenBound : Nat := Nat.pow 10 Literal.maxDigits

mutual

-- Whether all numbers in a cell are written.
def isWritable : Cell → Bool
  | .int n => n.natAbs < writtenBound
  | .instant i => i.ns.natAbs < writtenBound
  | .list items => areWritable items
  | .object fields => haveWritable fields
  | .record _ fields => haveWritable fields
  | _ => true

def areWritable : List Cell → Bool
  | [] => true
  | item :: rest => isWritable item && areWritable rest

def haveWritable : List (String × Cell) → Bool
  | [] => true
  | (_, value) :: rest => isWritable value && haveWritable rest

end

-- The text of a cell on its own.
def display : Cell → String
  | .text s => s
  | .dateTime d => d.textWith " "
  | .date d => Calendar.dateText d
  | .time t => Calendar.timeText t
  | .unit u => unitConstant u
  | .record _ fields => " ".intercalate (assignedFields fields)
  | cell => quoted cell

-- The label of a cell; null has an empty one.
def label : Cell → String
  | .null => ""
  | cell => display cell

-- The unit that a cell holds or names in full.
def fullUnit (cell : Cell) : Except Fault TimeUnit :=
  let unit? : Option TimeUnit := match cell with
    | .unit u => some u
    | .text s => TimeUnit.ofName? s
    | _ => none
  unit?.elim (.error (.unknownTimeUnit cell.quoted)) .ok

end Cell

end TimePanel
