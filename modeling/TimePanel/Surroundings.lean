import TimePanel.Calendar.FreeForm.Reader
import TimePanel.Calendar.Iso
import TimePanel.Schema.Format
import TimePanel.Settings
import TimePanel.Zone.Registry

/-! What a computation takes from around it: settings, the clock, the zones that are known, the
reading of written dates, and the format of records. -/

namespace TimePanel

-- Readers of dates in the international format and in free form.
structure DateReader where
  iso : List Char → Except Fault DateTime
  free : List Char → Except Fault DateTime

-- Free forms are completed from the given day.
def DateReader.on (today : Date) : DateReader := ⟨Iso.read, FreeForm.read today⟩

structure Surroundings where
  settings : Settings
  clock : Instant
  zone? : String → Option Zone
  dates : DateReader
  format : RecordFormat
  -- the identifier that the next chart gets
  chartId : String

namespace Surroundings

-- The zone of a name, where the empty name stands for the default zone.
def zoneNamed? (env : Surroundings) (name : String) : Option Zone :=
  env.zone? (if name.isEmpty then env.settings.defaultTimeZone else name)

-- The zone of a name, or universal time if it is not known.
def zoneNamed (env : Surroundings) (name : String) : Zone := (env.zoneNamed? name).getD Zone.utc

-- The time on the clock in universal time.
def timestamp (env : Surroundings) : String :=
  match env.clock.universal with
  | .ok wall => DateTime.text ⟨wall, some 0⟩
  | .error _ => ""

-- Surroundings with the clock at the given moment.
def atClock (settings : Settings) (clock : Instant) (chartId : String) : Surroundings :=
  let today := match clock.universal with
    | .ok wall => wall.date
    | .error _ => ⟨1970, 1, 1⟩
  { settings, clock, zone? := Zone.named?, dates := .on today, format := .json, chartId }

end Surroundings

end TimePanel
