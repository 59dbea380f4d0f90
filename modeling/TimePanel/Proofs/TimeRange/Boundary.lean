import TimePanel.Proofs.TimeRange.LocalTime

/-! The moments at which minutes, hours, days, weeks, months and years begin on a clock, and
rounding down to them where the clock never changes. -/

namespace TimePanel

open Calendar

-- Whether a unit begins at a wall time. Weeks begin on Sunday.
def WallTime.Begins (wall : WallTime) : SnapUnit → Prop
  | .minute => wall.time.second = 0 ∧ wall.time.micro = 0
  | .hour => wall.time.minute = 0 ∧ wall.time.second = 0 ∧ wall.time.micro = 0
  | .day => wall.time = .midnight
  | .week => wall.time = .midnight ∧ wall.date.weekday = 6
  | .month => wall.time = .midnight ∧ wall.date.day = 1
  | .year => wall.time = .midnight ∧ wall.date.month = 1 ∧ wall.date.day = 1

-- The seconds of a unit that begins on a date.
def SnapUnit.secondsFrom (first : Date) : SnapUnit → Nat
  | .minute => 60
  | .hour => 3600
  | .day => 86400
  | .week => 7 * 86400
  | .month => daysInMonth first.year first.month * 86400
  | .year => daysInYear first.year * 86400

namespace Instant

variable {instant earlier : Instant} {unit : SnapUnit}

-- All moments of a unit up to the given one have the same start.
theorem unitStart_of_between (h : instant.onCalendar) (hearlier : earlier.onCalendar)
    (hstart : (instant.unitStart unit).ns ≤ earlier.ns) (hle : earlier.ns ≤ instant.ns) :
    earlier.unitStart unit = instant.unitStart unit := by
  have hordinal := ordinal_date h
  have hordinalEarlier := ordinal_date hearlier
  cases unit with
  | minute =>
      simp only [unitStart, mk.injEq] at *
      omega
  | hour =>
      simp only [unitStart, mk.injEq] at *
      omega
  | day =>
      simp only [unitStart, ofDay, day, nanosPerDay, mk.injEq] at *
      omega
  | week =>
      simp only [unitStart, weekStart, ofDay, day, nanosPerDay, mk.injEq] at *
      omega
  | month =>
      have hvalid := isValid_date h
      have hmonth := Date.ordinal_eq_monthStart instant.date
      obtain ⟨-, -, -, -, -, hlast⟩ := Date.isValid_iff.mp hvalid
      have hsame : earlier.date.monthStart = instant.date.monthStart := by
        apply Date.monthStart_eq (isValid_date hearlier) (Date.isValid_monthStart hvalid) rfl
        · simp only [unitStart, ofDate_ns, day, nanosPerDay] at *
          omega
        · simp only [unitStart, ofDate_ns, day, nanosPerDay, Date.monthStart] at *
          omega
      rw [unitStart, hsame, unitStart]
  | year =>
      have hvalid := isValid_date h
      obtain ⟨hyear, -, -, -, -, -⟩ := Date.isValid_iff.mp hvalid
      obtain ⟨-, hlast⟩ := Date.ordinal_lt_yearStart hvalid
      have hsame : earlier.date.yearStart = instant.date.yearStart := by
        apply Date.yearStart_eq (isValid_date hearlier) hyear
        · simp only [unitStart, ofDate_ns, day, nanosPerDay, Date.yearStart] at *
          omega
        · simp only [unitStart, ofDate_ns, day, nanosPerDay, Date.yearStart] at *
          omega
      rw [unitStart, hsame, unitStart]

theorem unitStart_le (h : instant.onCalendar) (unit : SnapUnit) :
    (instant.unitStart unit).ns ≤ instant.ns := (unitStart_bounds h unit).1

theorem unitStart_idem (h : instant.onCalendar) (hstart : (instant.unitStart unit).onCalendar) :
    (instant.unitStart unit).unitStart unit = instant.unitStart unit :=
  unitStart_of_between h hstart (Int.le_refl _) (unitStart_le h unit)

theorem unitStart_mono (h : instant.onCalendar) (hearlier : earlier.onCalendar)
    (hle : earlier.ns ≤ instant.ns) (unit : SnapUnit) :
    (earlier.unitStart unit).ns ≤ (instant.unitStart unit).ns := by
  by_cases hstart : (instant.unitStart unit).ns ≤ earlier.ns
  · rw [unitStart_of_between h hearlier hstart hle]
  · have hbefore := unitStart_le hearlier unit
    omega

theorem lt_unitStart_add (h : instant.onCalendar) (unit : SnapUnit) :
    instant.ns < (instant.unitStart unit).ns +
      unit.secondsFrom (instant.unitStart unit).date * 1000000000 := by
  have hvalid := isValid_date h
  have hordinal := ordinal_date h
  cases unit with
  | minute =>
      simp only [unitStart, SnapUnit.secondsFrom]
      omega
  | hour =>
      simp only [unitStart, SnapUnit.secondsFrom]
      omega
  | day =>
      simp only [unitStart, ofDay, day, nanosPerDay, SnapUnit.secondsFrom]
      omega
  | week =>
      simp only [unitStart, weekStart, ofDay, day, nanosPerDay, SnapUnit.secondsFrom]
      omega
  | month =>
      have hmonth := Date.ordinal_eq_monthStart instant.date
      obtain ⟨-, -, -, -, -, hlast⟩ := Date.isValid_iff.mp hvalid
      simp only [unitStart, date_ofDate (Date.isValid_monthStart hvalid)]
      simp only [ofDate_ns, day, nanosPerDay, SnapUnit.secondsFrom, Date.monthStart] at *
      omega
  | year =>
      obtain ⟨-, hlast⟩ := Date.ordinal_lt_yearStart hvalid
      simp only [unitStart, date_ofDate (Date.isValid_yearStart hvalid)]
      simp only [ofDate_ns, day, nanosPerDay, SnapUnit.secondsFrom, Date.yearStart] at *
      omega

theorem time_eq_midnight_iff : instant.ns % 1000 = 0 ∧ instant.time = .midnight ↔
    instant.ns % nanosPerDay = 0 := by
  simp only [time, TimeOfDay.ofMicros, TimeOfDay.midnight, TimeOfDay.mk.injEq,
    TimeOfDay.microsPerDay, nanosPerDay]
  omega

theorem ofDay_day_eq_iff : ofDay instant.day = instant ↔ instant.ns % nanosPerDay = 0 := by
  obtain ⟨ns⟩ := instant
  simp only [ofDay, day, nanosPerDay, mk.injEq]
  omega

-- Units begin at the moments that are their own start.
theorem begins_iff (h : instant.onCalendar) :
    instant.ns % 1000 = 0 ∧ WallTime.Begins ⟨instant.date, instant.time⟩ unit ↔
      instant.unitStart unit = instant := by
  have hvalid := isValid_date h
  have hordinal := ordinal_date h
  cases unit with
  | minute =>
      obtain ⟨ns⟩ := instant
      simp only [WallTime.Begins, unitStart, time, TimeOfDay.ofMicros, TimeOfDay.microsPerDay,
        mk.injEq]
      omega
  | hour =>
      obtain ⟨ns⟩ := instant
      simp only [WallTime.Begins, unitStart, time, TimeOfDay.ofMicros, TimeOfDay.microsPerDay,
        mk.injEq]
      omega
  | day =>
      rw [WallTime.Begins, time_eq_midnight_iff, unitStart, ofDay_day_eq_iff]
  | week =>
      have hsunday : instant.date.weekday = 6 ↔ weekStart instant.day = instant.day := by
        simp only [Date.weekday, weekStart, epochOrdinal] at *
        omega
      rw [WallTime.Begins, ← and_assoc, time_eq_midnight_iff, hsunday, unitStart]
      obtain ⟨ns⟩ := instant
      simp only [ofDay, day, nanosPerDay, weekStart, mk.injEq]
      omega
  | month =>
      have hmonth := Date.ordinal_eq_monthStart instant.date
      obtain ⟨-, -, -, -, hfirst, -⟩ := Date.isValid_iff.mp hvalid
      rw [WallTime.Begins, ← and_assoc, time_eq_midnight_iff, unitStart]
      obtain ⟨ns⟩ := instant
      simp only [ofDate, ofDay, Date.epochDay, day, nanosPerDay, mk.injEq] at *
      omega
  | year =>
      have hjanuary : instant.date.month = 1 ∧ instant.date.day = 1 ↔
          instant.date.yearStart.ordinal = instant.date.ordinal := by
        constructor
        · rintro ⟨hmonth, hday⟩
          simp only [Date.yearStart, Date.ordinal, hmonth, hday]
        · intro hsame
          have hdate := Date.eq_of_ordinal_eq (Date.isValid_yearStart hvalid) hvalid hsame
          exact ⟨congrArg Date.month hdate.symm, congrArg Date.day hdate.symm⟩
      obtain ⟨hfirst, -⟩ := Date.ordinal_lt_yearStart hvalid
      rw [WallTime.Begins, ← and_assoc, time_eq_midnight_iff, hjanuary, unitStart]
      obtain ⟨ns⟩ := instant
      simp only [ofDate, ofDay, Date.epochDay, day, nanosPerDay, mk.injEq] at *
      omega

end Instant

namespace Zone

-- Whether a unit begins on the clock of the zone at an instant, to the nanosecond.
def IsBoundary (zone : Zone) (unit : SnapUnit) (instant : Instant) : Prop :=
  instant.ns % 1000 = 0 ∧
    ∃ reading, zone.reading instant = .ok reading ∧ reading.wall.Begins unit

-- The last moment up to an instant at which a unit begins.
structure IsLastBoundary (zone : Zone) (unit : SnapUnit) (instant start : Instant) : Prop where
  isBoundary : zone.IsBoundary unit start
  le : start.ns ≤ instant.ns
  greatest : ∀ boundary, zone.IsBoundary unit boundary → boundary.ns ≤ instant.ns →
    boundary.ns ≤ start.ns

-- A zone with one fixed offset.
structure KeepsOffset (zone : Zone) (offset : Int) : Prop where
  offsetAt : ∀ second, zone.offsetAt second = offset
  wallOffset : ∀ second repeated, zone.wallOffset second repeated = offset

theorem keepsOffset_fixed (name : String) (offset : Int) : (fixed name offset).KeepsOffset offset :=
  ⟨fun _ => rfl, fun _ _ => rfl⟩

theorem keepsOffset_utc : utc.KeepsOffset 0 := keepsOffset_fixed "UTC" 0

variable {zone : Zone} {unit : SnapUnit} {instant later : Instant}

theorem isBoundary_iff : zone.IsBoundary unit instant ↔
    instant.onCalendar ∧ (zone.localTime instant).onCalendar ∧
      (zone.localTime instant).unitStart unit = zone.localTime instant := by
  have hmicro : instant.ns % 1000 = 0 ↔ (zone.localTime instant).ns % 1000 = 0 := by
    simp only [localTime, Instant.shift]
    omega
  simp only [IsBoundary, reading_eq_ok_iff, and_assoc, exists_and_left, exists_eq_left, hmicro]
  constructor
  · rintro ⟨hmicro, hcalendar, hlocal, hbegins⟩
    exact ⟨hcalendar, hlocal, (Instant.begins_iff hlocal).mp ⟨hmicro, hbegins⟩⟩
  · rintro ⟨hcalendar, hlocal, hstart⟩
    obtain ⟨hmicro, hbegins⟩ := (Instant.begins_iff hlocal).mpr hstart
    exact ⟨hmicro, hcalendar, hlocal, hbegins⟩

section

variable {offset : Int} (hzone : zone.KeepsOffset offset)
include hzone

theorem localTime_of_keepsOffset (instant : Instant) :
    zone.localTime instant = instant.shift (offset * 1000000000) := by
  rw [localTime, hzone.offsetAt]

theorem unitStart_of_keepsOffset (unit : SnapUnit) (instant : Instant) :
    zone.unitStart unit instant =
      ((zone.localTime instant).unitStart unit).shift (-offset * 1000000000) := by
  simp only [Zone.unitStart, hzone.wallOffset]

theorem localTime_unitStart (unit : SnapUnit) (instant : Instant) :
    zone.localTime (zone.unitStart unit instant) = (zone.localTime instant).unitStart unit := by
  rw [localTime_of_keepsOffset hzone (zone.unitStart unit instant),
    unitStart_of_keepsOffset hzone unit instant]
  generalize (zone.localTime instant).unitStart unit = start
  obtain ⟨ns⟩ := start
  simp only [Instant.shift, Instant.mk.injEq]
  omega

-- In these years a moment and the start of its unit are on the calendar of every clock.
theorem onCalendar_of_inYears (hoffset : offset.natAbs < Instant.secondsPerDay)
    (h : instant.inYears 2 9998) (unit : SnapUnit) :
    instant.onCalendar ∧ (zone.localTime instant).onCalendar ∧
      ((zone.localTime instant).unitStart unit).onCalendar ∧
      (zone.unitStart unit instant).onCalendar := by
  have hfirst : (Instant.ofDate ⟨2, 1, 1⟩).ns = -62104060800000000000 := by decide
  have hlast : (Instant.ofDate ⟨9999, 1, 1⟩).ns = 253370764800000000000 := by decide
  have hearly : -62104320000000000000 ≤ ((Instant.ofDate ⟨2, 1, 1⟩).unitStart unit).ns := by
    cases unit <;> decide
  obtain ⟨hsince, huntil⟩ := h
  rw [hfirst] at hsince
  rw [hlast] at huntil
  have hshift := localTime_of_keepsOffset hzone instant
  have hlocal : (zone.localTime instant).onCalendar := by
    simp only [hshift, Instant.onCalendar, Instant.shift, Instant.day, Instant.nanosPerDay,
      Instant.secondsPerDay, epochOrdinal, lastOrdinal] at *
    omega
  have hweek : 7 ≤ (zone.localTime instant).day + epochOrdinal := by
    simp only [hshift, Instant.shift, Instant.day, Instant.nanosPerDay, Instant.secondsPerDay,
      epochOrdinal] at *
    omega
  have hstart := Instant.onCalendar_weekStart hlocal hweek unit
  have hle := Instant.unitStart_le hlocal unit
  have hlate : 0 < offset →
      -62104320000000000000 ≤ ((zone.localTime instant).unitStart unit).ns := by
    intro heast
    have hyear : (Instant.ofDate ⟨2, 1, 1⟩).ns ≤ (zone.localTime instant).ns := by
      rw [hfirst, hshift, Instant.shift]
      dsimp only
      omega
    have hmono := Instant.unitStart_mono hlocal (by decide) hyear unit
    omega
  have hback : (zone.unitStart unit instant).ns =
      ((zone.localTime instant).unitStart unit).ns - offset * 1000000000 := by
    simp only [unitStart_of_keepsOffset hzone, Instant.shift]
    omega
  refine ⟨?_, hlocal, hstart, ?_⟩
  · simp only [Instant.onCalendar, Instant.day, Instant.nanosPerDay, epochOrdinal, lastOrdinal]
    omega
  · simp only [hshift, Instant.onCalendar, Instant.shift, Instant.day, Instant.nanosPerDay,
      Instant.secondsPerDay, epochOrdinal, lastOrdinal] at *
    omega

theorem isBoundary_unitStart (hoffset : offset.natAbs < Instant.secondsPerDay)
    (h : instant.inYears 2 9998) (unit : SnapUnit) :
    zone.IsBoundary unit (zone.unitStart unit instant) := by
  obtain ⟨-, hlocal, hstart, hback⟩ := onCalendar_of_inYears hzone hoffset h unit
  rw [isBoundary_iff, localTime_unitStart hzone]
  exact ⟨hback, hstart, Instant.unitStart_idem hlocal hstart⟩

theorem isLastBoundary_unitStart (hoffset : offset.natAbs < Instant.secondsPerDay)
    (h : instant.inYears 2 9998) (unit : SnapUnit) :
    zone.IsLastBoundary unit instant (zone.unitStart unit instant) := by
  obtain ⟨-, hlocal, -, -⟩ := onCalendar_of_inYears hzone hoffset h unit
  have hstarts := localTime_unitStart hzone unit instant
  have hshown : ∀ moment, (zone.localTime moment).ns = moment.ns + offset * 1000000000 := by
    intro moment
    rw [localTime_of_keepsOffset hzone, Instant.shift]
  have hnow := hshown instant
  have hthen := hshown (zone.unitStart unit instant)
  constructor
  · exact isBoundary_unitStart hzone hoffset h unit
  · have hle := Instant.unitStart_le hlocal unit
    rw [← hstarts] at hle
    omega
  · intro boundary hboundary hle
    obtain ⟨-, hcalendar, hown⟩ := isBoundary_iff.mp hboundary
    have hbefore := hshown boundary
    have hmono := Instant.unitStart_mono hlocal hcalendar (by omega) unit
    rw [hown, ← hstarts] at hmono
    omega

end

end Zone

namespace Instant

-- On a clock that never changes, rounding down leads to the last moment at which a unit began.
-- Doing so again changes nothing, later moments are not rounded to earlier ones, and no moment is
-- moved by a whole unit.
theorem exists_snap_of_keepsOffset {zone : Zone} {offset : Int} (hzone : zone.KeepsOffset offset)
    (hoffset : offset.natAbs < secondsPerDay) {instant : Instant} (h : instant.inYears 2 9998)
    (unit : SnapUnit) :
    ∃ start reading, instant.snapTo (String.singleton unit.letter) zone = .ok start ∧
      zone.IsLastBoundary unit instant start ∧
      start.snapTo (String.singleton unit.letter) zone = .ok start ∧
      zone.reading start = .ok reading ∧
      instant.ns < start.ns + unit.secondsFrom reading.wall.date * 1000000000 ∧
      ∀ later : Instant, later.inYears 2 9998 → instant.ns ≤ later.ns → ∃ startLater,
        later.snapTo (String.singleton unit.letter) zone = .ok startLater ∧
          start.ns ≤ startLater.ns := by
  obtain ⟨hcalendar, hlocal, hstart, hback⟩ := Zone.onCalendar_of_inYears hzone hoffset h unit
  have hlocalStart := Zone.localTime_unitStart hzone unit instant
  have hlast := Zone.isLastBoundary_unitStart hzone hoffset h unit
  have hidem := unitStart_idem hlocal hstart
  refine ⟨zone.unitStart unit instant, _, ?_, hlast, ?_,
    Zone.reading_eq_ok_iff.mpr ⟨hback, hlocalStart ▸ hstart, rfl⟩, ?_, ?_⟩
  · rw [snapTo_letter, Zone.snap_eq_ok_iff]
    exact ⟨hcalendar, hlocal, hstart, rfl⟩
  · rw [snapTo_letter, Zone.snap_eq_ok_iff, hlocalStart, hidem]
    refine ⟨hback, hstart, hstart, ?_⟩
    rw [Zone.unitStart_of_keepsOffset hzone unit (zone.unitStart unit instant), hlocalStart, hidem,
      ← Zone.unitStart_of_keepsOffset hzone]
  · have hlt := lt_unitStart_add hlocal unit
    have hnow := Zone.localTime_of_keepsOffset hzone instant
    have hthen := Zone.localTime_of_keepsOffset hzone (zone.unitStart unit instant)
    rw [← hlocalStart] at hlt
    simp only [hnow, hthen, shift] at hlt ⊢
    omega
  · intro later hlater hle
    obtain ⟨hcalendarLater, hlocalLater, hstartLater, -⟩ :=
      Zone.onCalendar_of_inYears hzone hoffset hlater unit
    refine ⟨zone.unitStart unit later, ?_, ?_⟩
    · rw [snapTo_letter, Zone.snap_eq_ok_iff]
      exact ⟨hcalendarLater, hlocalLater, hstartLater, rfl⟩
    · have hlastLater := Zone.isLastBoundary_unitStart hzone hoffset hlater unit
      exact hlastLater.greatest _ hlast.isBoundary (Int.le_trans hlast.le hle)

-- Fourteen hours east of Greenwich the last of February is already March, and the last nanosecond
-- before 1970 lies in a week that began four days earlier.
theorem snap_etcGMT14 :
    (Instant.mk 1709231399999999999).snapTo "M" (.fixed "Etc/GMT-14" 50400) =
        .ok ⟨1709200800000000000⟩ ∧
      (Zone.fixed "Etc/GMT-14" 50400).IsLastBoundary .month ⟨1709231399999999999⟩
        ⟨1709200800000000000⟩ ∧
      (Instant.mk (-1)).snapTo "w" Zone.utc = .ok ⟨-345600000000000⟩ ∧
      Zone.utc.IsLastBoundary .week ⟨-1⟩ ⟨-345600000000000⟩ := by
  have heast : (Instant.mk 1709231399999999999).snapTo "M" (.fixed "Etc/GMT-14" 50400) =
      .ok ⟨1709200800000000000⟩ := by decide +kernel
  have hutc : (Instant.mk (-1)).snapTo "w" Zone.utc = .ok ⟨-345600000000000⟩ := by decide +kernel
  have heastYears : (Instant.mk 1709231399999999999).inYears 2 9998 := ⟨by decide, by decide⟩
  have hutcYears : (Instant.mk (-1)).inYears 2 9998 := ⟨by decide, by decide⟩
  obtain ⟨start, -, hstart, hlast, -⟩ := exists_snap_of_keepsOffset
    (Zone.keepsOffset_fixed "Etc/GMT-14" 50400) (by decide) heastYears .month
  obtain ⟨startWeek, -, hstartWeek, hlastWeek, -⟩ := exists_snap_of_keepsOffset
    Zone.keepsOffset_utc (by decide) hutcYears .week
  cases heast.symm.trans hstart
  cases hutc.symm.trans hstartWeek
  exact ⟨heast, hlast, hutc, hlastWeek⟩

end Instant

end TimePanel
