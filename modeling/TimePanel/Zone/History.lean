import TimePanel.Zone.Basic
import TimePanel.Calendar.Date

/-! Zones given by the list of their past changes and a rule for the years after them. -/

namespace TimePanel

-- The given weekday (0 is Sunday) in the given week of a month, where week 5 is the last, and the
-- second of that day at which clocks change.
structure YearlyChange where
  month : Nat
  week : Nat
  weekday : Nat
  second : Int

-- Clocks show `summer` from `start` to `finish` each year, both given on the clock in force.
structure SummerRule where
  standard : Int
  summer : Int
  start : YearlyChange
  finish : YearlyChange

-- Offsets after the last listed change.
inductive Outlook where
  | constant (offset : Int)
  | yearly (rule : SummerRule)

-- A change of the offset at a second of universal time.
structure Change where
  moment : Int
  offset : Int

structure ZoneHistory where
  initial : Int
  changes : List Change
  outlook : Outlook

namespace YearlyChange

open Calendar

-- The second of the change in a year, on the clock on which it is given.
def secondIn (change : YearlyChange) (year : Nat) : Int :=
  let first : Date := ⟨year, change.month, 1⟩
  let day := (change.weekday + 13 - first.weekday) % 7 + 1 + (change.week - 1) * 7
  let day := if daysInMonth year change.month < day then day - 7 else day
  ({ first with day } : Date).epochDay * 86400 + change.second

end YearlyChange

namespace SummerRule

def yearOf (second : Int) : Nat :=
  (Date.ofOrdinal (second / 86400 + Calendar.epochOrdinal).toNat).year

def inSeason (start finish second : Int) : Bool :=
  if start < finish then start ≤ second && second < finish
  else !(finish ≤ second && second < start)

def gain (rule : SummerRule) : Int := rule.summer - rule.standard

-- The offset at a second of universal time, and whether its wall time is a repetition.
def place (rule : SummerRule) (second : Int) : Int × Bool :=
  let year := yearOf second
  let start := rule.start.secondIn year - rule.standard
  let finish := rule.finish.secondIn year - rule.summer
  let offset := if inSeason start finish second then rule.summer else rule.standard
  let repeated :=
    if 0 < rule.gain then finish ≤ second && second < finish + rule.gain
    else start ≤ second && second < start - rule.gain
  (offset, repeated)

def wallOffset (rule : SummerRule) (second : Int) (repeated : Bool) : Int :=
  let year := yearOf second
  let start := rule.start.secondIn year
  let finish := rule.finish.secondIn year
  let (start, finish) :=
    if repeated = decide (0 ≤ rule.gain) then (start, finish - rule.gain)
    else (start + rule.gain, finish)
  if inSeason start finish second then rule.summer else rule.standard

end SummerRule

namespace ZoneHistory

-- The last change that `reached` accepts, with the offset before it.
def lastReached (reached : Int → Change → Bool) (before : Int) :
    List Change → Option (Int × Change)
  | [] => none
  | change :: rest =>
    if reached before change then
      (lastReached reached change.offset rest).getD (before, change)
    else none

def isPast (history : ZoneHistory) (reached : Int → Change → Bool) : Bool :=
  match history.changes.reverse with
  | [] => true
  | last :: earlier =>
    reached (earlier.head?.elim history.initial (·.offset)) last

-- The offset at a second of universal time, and whether its wall time is a repetition.
def place (history : ZoneHistory) (second : Int) : Int × Bool :=
  match history.outlook, isPast history fun _ change => change.moment < second with
  | .yearly rule, true => rule.place second
  | outlook, _ =>
    match lastReached (fun _ change => change.moment ≤ second) history.initial history.changes with
    | some (before, change) =>
      (change.offset, second - change.moment < before - change.offset)
    | none =>
      match history.changes, outlook with
      | [], .constant offset => (offset, false)
      | _, _ => (history.initial, false)

-- The second on the clock from which a change is in force. In a gap the first reading is still
-- on the old offset, the second one on the new.
def wallStart (repeated : Bool) (before : Int) (change : Change) : Int :=
  change.moment + (if repeated then min before change.offset else max before change.offset)

def wallOffset (history : ZoneHistory) (second : Int) (repeated : Bool) : Int :=
  match history.outlook,
      isPast history fun before change => wallStart repeated before change < second with
  | .yearly rule, true => rule.wallOffset second repeated
  | outlook, _ =>
    match lastReached (fun before change => wallStart repeated before change ≤ second)
        history.initial history.changes with
    | some (_, change) => change.offset
    | none =>
      match history.changes, outlook with
      | [], .constant offset => offset
      | _, _ => history.initial

def zone (history : ZoneHistory) (name : String) : Zone :=
  { name, offsetAt := fun second => (history.place second).1,
    repeatedAt := fun second => (history.place second).2, wallOffset := history.wallOffset }

end ZoneHistory

end TimePanel
