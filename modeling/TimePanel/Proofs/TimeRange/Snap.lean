import TimePanel.Proofs.Calendar.Date
import TimePanel.Proofs.Fault
import TimePanel.TimeRange.Span

/-! Days of universal time, and rounding instants down to the units of its calendar. -/

namespace TimePanel

open Calendar

namespace Instant

def nanosPerDay : Int := 86400000000000

-- The day that an instant lies in, counted from the start of 1970, and its date.
def day (instant : Instant) : Int := instant.ns / nanosPerDay

def date (instant : Instant) : Date := Date.ofOrdinal (instant.day + epochOrdinal).toNat

-- The start of a day, and that of a date.
def ofDay (day : Int) : Instant := ⟨day * nanosPerDay⟩

def ofDate (date : Date) : Instant := ofDay date.epochDay

-- Whether a calendar can show the day.
def onCalendar (instant : Instant) : Prop :=
  1 ≤ instant.day + epochOrdinal ∧ instant.day + epochOrdinal ≤ lastOrdinal

instance (instant : Instant) : Decidable instant.onCalendar := inferInstanceAs (Decidable (_ ∧ _))

-- The time of the day, to the microsecond.
def time (instant : Instant) : TimeOfDay :=
  .ofMicros (instant.ns / 1000 % TimeOfDay.microsPerDay).toNat

variable {instant : Instant}

theorem isValid_date (h : instant.onCalendar) : instant.date.isValid = true :=
  Date.isValid_ofOrdinal (by have := h.1; omega) (by have := h.2; omega)

theorem ordinal_date (h : instant.onCalendar) :
    (instant.date.ordinal : Int) = instant.day + epochOrdinal := by
  have h1 := h.1
  have hlast := h.2
  rw [date, Date.ordinal_ofOrdinal (by omega) (by omega)]
  omega

theorem epochDay_date (h : instant.onCalendar) : instant.date.epochDay = instant.day := by
  rw [Date.epochDay, ordinal_date h]
  omega

theorem ofEpochDay?_day (h : instant.onCalendar) :
    Date.ofEpochDay? instant.day = some instant.date := if_pos h

theorem micros_ofMicros (micros : Nat) : (TimeOfDay.ofMicros micros).micros = micros := by
  simp only [TimeOfDay.ofMicros, TimeOfDay.micros]
  omega

theorem universal_eq (h : instant.onCalendar) :
    instant.universal = .ok ⟨instant.date, instant.time⟩ := by
  have hday : instant.ns / 1000 / (TimeOfDay.microsPerDay : Int) = instant.day := by
    rw [day, nanosPerDay, TimeOfDay.microsPerDay]
    omega
  simp only [universal, WallTime.ofEpochMicros?, hday, ofEpochDay?_day h, Option.map_some,
    Option.elim_some, time]

theorem epochMicros_universal (h : instant.onCalendar) :
    WallTime.epochMicros ⟨instant.date, instant.time⟩ = instant.ns / 1000 := by
  simp only [WallTime.epochMicros, epochDay_date h, time, micros_ofMicros, day, nanosPerDay,
    TimeOfDay.microsPerDay]
  omega

theorem reading_utc (h : instant.onCalendar) :
    Zone.utc.reading instant = .ok ⟨⟨instant.date, instant.time⟩, false⟩ := by
  have hsame : WallTime.ofEpochMicros? (instant.ns / 1000) =
      some ⟨instant.date, instant.time⟩ := by
    have huniversal := universal_eq h
    unfold universal at huniversal
    cases hwall : WallTime.ofEpochMicros? (instant.ns / 1000) with
    | none => simp [hwall] at huniversal
    | some wall =>
        simp only [hwall, Option.elim_some, Except.ok.injEq] at huniversal
        rw [huniversal]
  simp only [Zone.reading, universal_eq h, bind, Except.bind, Zone.utc, Zone.fixed,
    epochMicros_universal h, Int.zero_mul, Int.add_zero, hsame]

theorem instantOf_utc (wall : WallTime) (repeated : Bool) :
    Zone.utc.instantOf ⟨wall, repeated⟩ = ⟨wall.epochMicros * 1000⟩ := by
  simp [Zone.instantOf, Zone.offsetOf, Zone.utc, Zone.fixed, ofWall]

theorem day_ofDay (day : Int) : (ofDay day).day = day := by
  simp only [ofDay, Instant.day, nanosPerDay]
  omega

theorem time_ofDay (day : Int) : (ofDay day).time = .midnight := by
  have hnone : (ofDay day).ns / 1000 % (TimeOfDay.microsPerDay : Int) = 0 := by
    simp only [ofDay, nanosPerDay, TimeOfDay.microsPerDay]
    omega
  simp only [time, hnone]
  rfl

theorem date_ofDate {date : Date} (h : date.isValid = true) : (ofDate date).date = date := by
  rw [Instant.date, ofDate, day_ofDay, Date.epochDay, Int.sub_add_cancel, Int.toNat_natCast,
    Date.ofOrdinal_ordinal h]

theorem onCalendar_ofDate {date : Date} (h : date.isValid = true) : (ofDate date).onCalendar := by
  obtain ⟨hfirst, hlast⟩ := Date.ordinal_bounds h
  rw [onCalendar, ofDate, day_ofDay, Date.epochDay]
  omega

-- The Sunday on which the week of a day begins. The first day of 1970 was a Thursday.
def weekStart (day : Int) : Int := day - (day + 4) % 7

-- The start of the unit of universal time that an instant lies in.
def unitStart (instant : Instant) : SnapUnit → Instant
  | .minute => ⟨instant.ns / 60000000000 * 60000000000⟩
  | .hour => ⟨instant.ns / 3600000000000 * 3600000000000⟩
  | .day => ofDay instant.day
  | .week => ofDay (weekStart instant.day)
  | .month => ofDate instant.date.monthStart
  | .year => ofDate instant.date.yearStart

-- Only weeks, which are counted back on the calendar, may begin before its first day.
theorem onCalendar_unitStart (h : instant.onCalendar) {unit : SnapUnit} (hunit : unit ≠ .week) :
    (instant.unitStart unit).onCalendar := by
  have hvalid := isValid_date h
  obtain ⟨hfirst, hlast⟩ := h
  cases unit with
  | minute =>
      simp only [onCalendar, unitStart, day, nanosPerDay] at *
      omega
  | hour =>
      simp only [onCalendar, unitStart, day, nanosPerDay] at *
      omega
  | day =>
      simp only [onCalendar, unitStart, day_ofDay]
      exact ⟨hfirst, hlast⟩
  | week => exact absurd rfl hunit
  | month => exact onCalendar_ofDate (Date.isValid_monthStart hvalid)
  | year => exact onCalendar_ofDate (Date.isValid_yearStart hvalid)

theorem onCalendar_weekStart (h : instant.onCalendar) (hweek : 7 ≤ instant.day + epochOrdinal)
    (unit : SnapUnit) : (instant.unitStart unit).onCalendar := by
  by_cases hunit : unit = .week
  · subst hunit
    obtain ⟨-, hlast⟩ := h
    simp only [onCalendar, unitStart, day_ofDay, weekStart]
    omega
  · exact onCalendar_unitStart h hunit

theorem date_eq_of_day {other : Instant} (h : instant.day = other.day) :
    instant.date = other.date := by rw [date, h, date]

theorem time_minute : (instant.unitStart .minute).time =
    { instant.time with second := 0, micro := 0 } := by
  have hwhole : ((instant.unitStart .minute).ns / 1000 % TimeOfDay.microsPerDay).toNat =
      (instant.ns / 1000 % TimeOfDay.microsPerDay).toNat / 60000000 * 60000000 := by
    simp only [unitStart, TimeOfDay.microsPerDay]
    omega
  simp only [time, hwhole, TimeOfDay.ofMicros, TimeOfDay.mk.injEq]
  omega

theorem time_hour : (instant.unitStart .hour).time =
    { instant.time with minute := 0, second := 0, micro := 0 } := by
  have hwhole : ((instant.unitStart .hour).ns / 1000 % TimeOfDay.microsPerDay).toNat =
      (instant.ns / 1000 % TimeOfDay.microsPerDay).toNat / 3600000000 * 3600000000 := by
    simp only [unitStart, TimeOfDay.microsPerDay]
    omega
  simp only [time, hwhole, TimeOfDay.ofMicros, TimeOfDay.mk.injEq]
  omega

theorem addDays_week (h : instant.onCalendar) :
    WallTime.addDays ⟨instant.date, .midnight⟩ (-((instant.date.weekday + 1) % 7 : Nat)) =
      if (instant.unitStart .week).onCalendar
      then .ok ⟨(instant.unitStart .week).date, .midnight⟩ else .error .dateOutOfRange := by
  have hback : instant.date.epochDay + -((instant.date.weekday + 1) % 7 : Nat) =
      (instant.unitStart .week).day := by
    have hordinal := ordinal_date h
    rw [epochDay_date h, unitStart, day_ofDay, weekStart, Date.weekday]
    simp only [epochOrdinal] at *
    omega
  rw [WallTime.addDays, hback]
  by_cases hcalendar : (instant.unitStart .week).onCalendar
  · rw [ofEpochDay?_day hcalendar, if_pos hcalendar]
  · have hnone : Date.ofEpochDay? (instant.unitStart .week).day = none := if_neg hcalendar
    rw [hnone, if_neg hcalendar]

end Instant

-- Whether the start of a unit is taken on the same pass through a repeated hour.
def SnapUnit.keepsPass : SnapUnit → Bool
  | .week => false
  | _ => true

namespace Instant

variable {instant : Instant}

-- Rounding down what a clock shows leads to what it shows at the start of the unit.
theorem start_eq (h : instant.onCalendar) {unit : SnapUnit}
    (hstart : (instant.unitStart unit).onCalendar) (repeated : Bool) :
    unit.start ⟨⟨instant.date, instant.time⟩, repeated⟩ =
      .ok ⟨⟨(instant.unitStart unit).date, (instant.unitStart unit).time⟩,
        unit.keepsPass && repeated⟩ := by
  have hvalid := isValid_date h
  cases unit with
  | minute =>
      have hday : (instant.unitStart .minute).day = instant.day := by
        simp only [unitStart, day, nanosPerDay]
        omega
      rw [date_eq_of_day hday, time_minute]
      rfl
  | hour =>
      have hday : (instant.unitStart .hour).day = instant.day := by
        simp only [unitStart, day, nanosPerDay]
        omega
      rw [date_eq_of_day hday, time_hour]
      rfl
  | day =>
      have hday : (instant.unitStart .day).day = instant.day := day_ofDay instant.day
      have htime : (instant.unitStart .day).time = .midnight := time_ofDay instant.day
      rw [date_eq_of_day hday, htime]
      rfl
  | week =>
      have htime : (instant.unitStart .week).time = .midnight := time_ofDay _
      simp only [SnapUnit.start, addDays_week h, if_pos hstart, htime]
      rfl
  | month =>
      have hdate : (instant.unitStart .month).date = instant.date.monthStart :=
        date_ofDate (Date.isValid_monthStart hvalid)
      have htime : (instant.unitStart .month).time = .midnight := time_ofDay _
      rw [hdate, htime]
      rfl
  | year =>
      have hdate : (instant.unitStart .year).date = instant.date.yearStart :=
        date_ofDate (Date.isValid_yearStart hvalid)
      have htime : (instant.unitStart .year).time = .midnight := time_ofDay _
      rw [hdate, htime]
      rfl

theorem start_eq_ok_iff (h : instant.onCalendar) {unit : SnapUnit} {repeated : Bool}
    {started : Reading} :
    unit.start ⟨⟨instant.date, instant.time⟩, repeated⟩ = .ok started ↔
      (instant.unitStart unit).onCalendar ∧ started =
        ⟨⟨(instant.unitStart unit).date, (instant.unitStart unit).time⟩,
          unit.keepsPass && repeated⟩ := by
  by_cases hstart : (instant.unitStart unit).onCalendar
  · rw [start_eq h hstart]
    simp [hstart, eq_comm]
  · have hunit : unit = .week := by
      by_contra hother
      exact hstart (onCalendar_unitStart h hother)
    subst hunit
    simp only [SnapUnit.start, addDays_week h, hstart, if_false, false_and, iff_false]
    exact nofun

theorem ns_unitStart (instant : Instant) (unit : SnapUnit) :
    (instant.unitStart unit).ns % 60000000000 = 0 := by
  cases unit <;> simp only [unitStart, ofDate, ofDay, nanosPerDay] <;> omega

-- In universal time, rounding down leads to the start of the unit.
theorem snap_utc (h : instant.onCalendar) (hweek : 7 ≤ instant.day + epochOrdinal)
    (unit : SnapUnit) : instant.snap unit Zone.utc = .ok (instant.unitStart unit) := by
  have hstart := onCalendar_weekStart h hweek unit
  have hwhole := ns_unitStart instant unit
  have hns : (instant.unitStart unit).ns / 1000 * 1000 = (instant.unitStart unit).ns := by omega
  rw [snap, Fault.bind_of_eq_ok (reading_utc h), Fault.bind_of_eq_ok (start_eq h hstart false),
    instantOf_utc, epochMicros_universal hstart, hns]
  rfl

theorem ofDate_ns (date : Date) :
    (ofDate date).ns = (date.ordinal - epochOrdinal) * nanosPerDay := rfl

-- The start of a unit is not later than the instant, and at most a year earlier.
theorem unitStart_bounds (h : instant.onCalendar) (unit : SnapUnit) :
    (instant.unitStart unit).ns ≤ instant.ns ∧
      instant.ns < (instant.unitStart unit).ns + 366 * nanosPerDay := by
  have hvalid := isValid_date h
  have hordinal := ordinal_date h
  cases unit with
  | minute =>
      simp only [unitStart, nanosPerDay]
      omega
  | hour =>
      simp only [unitStart, nanosPerDay]
      omega
  | day =>
      simp only [unitStart, ofDay, day, nanosPerDay]
      omega
  | week =>
      simp only [unitStart, weekStart, ofDay, day, nanosPerDay]
      omega
  | month =>
      have hmonth := Date.ordinal_eq_monthStart instant.date
      obtain ⟨-, -, hfirst, hlast, hday, hday'⟩ := Date.isValid_iff.mp hvalid
      have hlength := (daysInMonth_bounds instant.date.year hfirst hlast).2
      simp only [unitStart, ofDate_ns, day, nanosPerDay] at *
      omega
  | year =>
      have hyear := Date.ordinal_lt_yearStart hvalid
      have hlength : daysInYear instant.date.year ≤ 366 := by
        unfold daysInYear
        split <;> omega
      simp only [unitStart, ofDate_ns, day, nanosPerDay] at *
      omega

-- Units from the day on begin at the start of a day.
theorem unitStart_eq_ofDay {unit : SnapUnit} (hunit : unit ∈ [SnapUnit.day, .week, .month, .year]) :
    ∃ day : Int, instant.unitStart unit = .ofDay day := by
  simp only [List.mem_cons, List.not_mem_nil, or_false] at hunit
  rcases hunit with rfl | rfl | rfl | rfl
  · exact ⟨_, rfl⟩
  · exact ⟨_, rfl⟩
  · exact ⟨_, rfl⟩
  · exact ⟨_, rfl⟩

-- From the start of the first year to the end of the last.
def inYears (first last : Nat) (instant : Instant) : Prop :=
  (ofDate ⟨first, 1, 1⟩).ns ≤ instant.ns ∧ instant.ns < (ofDate ⟨last + 1, 1, 1⟩).ns

-- What lies at most two years back from such a year is on every calendar.
theorem onCalendar_of_inYears {now : Instant} (instant : Instant) (h : now.inYears 1970 9998)
    (hback : now.ns - 731 * nanosPerDay ≤ instant.ns) (hle : instant.ns ≤ now.ns) :
    instant.onCalendar ∧ 7 ≤ instant.day + epochOrdinal ∧ instant.isRepresentable = true := by
  have hfirst : (ofDate ⟨1970, 1, 1⟩).ns = 0 := by decide
  have hlast : (ofDate ⟨9999, 1, 1⟩).ns = 253370764800000000000 := by decide
  obtain ⟨hnow, hnow'⟩ := h
  rw [hfirst] at hnow
  rw [hlast] at hnow'
  simp only [nanosPerDay] at hback
  refine ⟨?_, ?_, ?_⟩
  · simp only [onCalendar, day, nanosPerDay, epochOrdinal, lastOrdinal]
    omega
  · simp only [day, nanosPerDay, epochOrdinal]
    omega
  · rw [isRepresentable, Bool.and_eq_true, decide_eq_true_eq, decide_eq_true_eq, minNs, maxNs]
    omega

theorem onCalendar_now {now : Instant} (h : now.inYears 1970 9998) :
    now.onCalendar ∧ now.isRepresentable = true := by
  have hback : now.ns - 731 * nanosPerDay ≤ now.ns := by
    simp only [nanosPerDay]
    omega
  obtain ⟨hcalendar, -, hshown⟩ := onCalendar_of_inYears now h hback (Int.le_refl _)
  exact ⟨hcalendar, hshown⟩

-- So what lies at most one year back can be rounded down, and the result can be shown.
theorem snap_of_inYears {now : Instant} (instant : Instant) (h : now.inYears 1970 9998)
    (hback : now.ns - 365 * nanosPerDay ≤ instant.ns) (hle : instant.ns ≤ now.ns)
    (unit : SnapUnit) :
    instant.snap unit Zone.utc = .ok (instant.unitStart unit) ∧
      (instant.unitStart unit).isRepresentable = true := by
  simp only [nanosPerDay] at hback
  obtain ⟨hcalendar, hweek, -⟩ := onCalendar_of_inYears instant h
    (by simp only [nanosPerDay]; omega) hle
  obtain ⟨hstart, hend⟩ := unitStart_bounds hcalendar unit
  simp only [nanosPerDay] at hend
  have hstartBack : now.ns - 731 * nanosPerDay ≤ (instant.unitStart unit).ns := by
    simp only [nanosPerDay]
    omega
  obtain ⟨-, -, hshown⟩ :=
    onCalendar_of_inYears (instant.unitStart unit) h hstartBack (Int.le_trans hstart hle)
  exact ⟨snap_utc hcalendar hweek unit, hshown⟩

end Instant

end TimePanel
