import TimePanel.Zone.Places

/-! Zones by name. -/

namespace TimePanel

namespace Zone

open ZoneHistory

-- Names of universal time.
def universalNames : List String :=
  ["UTC", "GMT", "Factory", "Etc/GMT", "Etc/GMT0", "Etc/GMT+0", "Etc/GMT-0", "Etc/Greenwich",
   "Etc/UCT", "Etc/UTC", "Etc/Universal", "Etc/Zulu"]

def places : List (String × ZoneHistory) :=
  [("America/New_York", newYork), ("US/Eastern", newYork), ("EST5EDT", newYork), ("EST", panama),
   ("America/St_Johns", stJohns), ("America/Sao_Paulo", saoPaulo),
   ("America/Argentina/Buenos_Aires", buenosAires), ("Europe/London", london),
   ("Africa/Casablanca", casablanca), ("Asia/Tokyo", tokyo), ("Asia/Kolkata", kolkata),
   ("Asia/Calcutta", kolkata), ("Asia/Kathmandu", kathmandu),
   ("Australia/Lord_Howe", lordHowe), ("Pacific/Apia", apia)]

-- Zones named by their distance from Greenwich. The sign is that of the distance westwards.
def byHours : List (String × Int) :=
  (List.range' 1 12).map (fun n => ("Etc/GMT+" ++ toString n, -3600 * Int.ofNat n)) ++
    (List.range' 1 14).map (fun n => ("Etc/GMT-" ++ toString n, 3600 * Int.ofNat n))

-- Names are compared exactly, case included.
def named? (name : String) : Option Zone :=
  if universalNames.contains name then some (fixed name 0)
  else
    match places.lookup name with
    | some history => some (history.zone name)
    | none => (byHours.lookup name).map (fixed name)

end Zone

end TimePanel
