/-! The time of day, to the microsecond. -/

namespace TimePanel

structure TimeOfDay where
  hour : Nat
  minute : Nat
  second : Nat
  micro : Nat
deriving DecidableEq, Repr, Inhabited

namespace TimeOfDay

def midnight : TimeOfDay := ⟨0, 0, 0, 0⟩

def microsPerDay : Nat := 86400000000

def isValid (time : TimeOfDay) : Bool :=
  time.hour < 24 && time.minute < 60 && time.second < 60 && time.micro < 1000000

def of? (hour minute second micro : Nat) : Option TimeOfDay :=
  let time : TimeOfDay := ⟨hour, minute, second, micro⟩
  if time.isValid then some time else none

-- Microseconds since midnight.
def micros (time : TimeOfDay) : Nat :=
  ((time.hour * 60 + time.minute) * 60 + time.second) * 1000000 + time.micro

def ofMicros (micros : Nat) : TimeOfDay :=
  let seconds := micros / 1000000
  ⟨seconds / 3600, seconds / 60 % 60, seconds % 60, micros % 1000000⟩

end TimeOfDay

end TimePanel
