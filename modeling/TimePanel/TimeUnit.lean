import TimePanel.Text.Blank

/-! The units in which points in time are counted. -/

namespace TimePanel

inductive TimeUnit where
  | seconds
  | milliseconds
  | microseconds
  | nanoseconds
deriving DecidableEq, Repr, Inhabited

namespace TimeUnit

def all : List TimeUnit := [.seconds, .milliseconds, .microseconds, .nanoseconds]

-- Nanoseconds in one tick.
def nanos : TimeUnit → Nat
  | .seconds => 1000000000
  | .milliseconds => 1000000
  | .microseconds => 1000
  | .nanoseconds => 1

def name : TimeUnit → String
  | .seconds => "seconds"
  | .milliseconds => "milliseconds"
  | .microseconds => "microseconds"
  | .nanoseconds => "nanoseconds"

def short : TimeUnit → String
  | .seconds => "s"
  | .milliseconds => "ms"
  | .microseconds => "us"
  | .nanoseconds => "ns"

def ofName? (name : String) : Option TimeUnit := all.find? (·.name = name)

-- A full or a short name between blanks. Microseconds may also be written with the Greek letter.
def ofText? (text : String) : Option TimeUnit :=
  let word := String.ofList (Text.strip text.toList)
  match all.find? fun unit => word = unit.name || word = unit.short with
  | some unit => some unit
  | none => if word = "\u03bcs" then some .microseconds else none

end TimeUnit

end TimePanel
