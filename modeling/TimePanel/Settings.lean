import TimePanel.Schema.Scalar

/-! Settings, read from named texts. -/

namespace TimePanel

structure Settings where
  defaultTimeZone : String
  maxDataPoints : Int
  fallbackIntervalSeconds : Int
  sampleSize : Int
  dateRatioThreshold : Binary64
  apiPort : Int
  logLevel : String
deriving Repr

namespace Settings

-- Four fifths of the samples, as a float.
def defaultRatio : Binary64 := .ofRat (4 / 5)

def default : Settings :=
  { defaultTimeZone := "UTC", maxDataPoints := 1000, fallbackIntervalSeconds := 60,
    sampleSize := 100, dateRatioThreshold := defaultRatio, apiPort := 8000, logLevel := "INFO" }

-- The last of the entries with a name, compared without case.
def entry? (entries : List (String × String)) (name : String) : Option String :=
  (entries.reverse.find? fun (key, _) => key.map Char.toLower = name).map (·.2)

def setting {α : Type} (entries : List (String × String)) (name : String) (fallback : α)
    (check : Cell → Checked α) : Checked α :=
  match entry? entries name with
  | some value => (check (.text value)).within (.field name)
  | none => .valid fallback

-- The settings given by entries like those of an environment; what is not given has its default.
def ofEntries (entries : List (String × String)) : Checked Settings :=
  (Checked.valid Settings.mk)
    |>.apply (setting entries "default_time_zone" default.defaultTimeZone Schema.text)
    |>.apply (setting entries "max_data_points" default.maxDataPoints Schema.integer)
    |>.apply (setting entries "fallback_interval_seconds" default.fallbackIntervalSeconds
      Schema.integer)
    |>.apply (setting entries "sample_size" default.sampleSize Schema.integer)
    |>.apply (setting entries "date_ratio_threshold" default.dateRatioThreshold Schema.number)
    |>.apply (setting entries "api_port" default.apiPort Schema.integer)
    |>.apply (setting entries "log_level" default.logLevel Schema.text)

def toCell (settings : Settings) : Cell :=
  .object
    [("default_time_zone", .text settings.defaultTimeZone),
     ("max_data_points", .int settings.maxDataPoints),
     ("fallback_interval_seconds", .int settings.fallbackIntervalSeconds),
     ("sample_size", .int settings.sampleSize),
     ("date_ratio_threshold", .float settings.dateRatioThreshold),
     ("api_port", .int settings.apiPort),
     ("log_level", .text settings.logLevel)]

end Settings

end TimePanel
