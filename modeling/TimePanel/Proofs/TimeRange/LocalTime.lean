import TimePanel.Proofs.TimeRange.Snap

/-! What the clock of a zone shows at an instant, and rounding instants down by that clock. -/

namespace TimePanel

open Calendar

namespace Instant

-- Whole seconds since the start of 1970, and the instant that many seconds after it.
def second (instant : Instant) : Int := instant.ns / 1000000000

def ofSecond (second : Int) : Instant := ⟨second * 1000000000⟩

theorem ofEpochMicros?_eq_some_iff {instant : Instant} {wall : WallTime} :
    WallTime.ofEpochMicros? (instant.ns / 1000) = some wall ↔
      instant.onCalendar ∧ wall = ⟨instant.date, instant.time⟩ := by
  have hday : instant.ns / 1000 / (TimeOfDay.microsPerDay : Int) = instant.day := by
    rw [day, nanosPerDay, TimeOfDay.microsPerDay]
    omega
  rw [WallTime.ofEpochMicros?, hday]
  by_cases h : instant.onCalendar
  · simp only [ofEpochDay?_day h, Option.map_some, Option.some.injEq, h, true_and]
    exact eq_comm
  · have hnone : Date.ofEpochDay? instant.day = none := if_neg h
    simp [hnone, h]

theorem universal_eq_ok_iff {instant : Instant} {wall : WallTime} :
    instant.universal = .ok wall ↔ instant.onCalendar ∧ wall = ⟨instant.date, instant.time⟩ := by
  rw [← ofEpochMicros?_eq_some_iff, universal]
  cases WallTime.ofEpochMicros? (instant.ns / 1000) with
  | none => simp
  | some shown => simp

theorem epochSeconds_universal {instant : Instant} (h : instant.onCalendar) :
    WallTime.epochSeconds ⟨instant.date, instant.time⟩ = instant.second := by
  rw [WallTime.epochSeconds, epochMicros_universal h, second]
  omega

end Instant

namespace Zone

-- The instant at which clocks of universal time show what the clock of the zone shows now.
def localTime (zone : Zone) (instant : Instant) : Instant :=
  instant.shift (zone.offsetAt instant.second * 1000000000)

variable {zone : Zone} {instant : Instant}

theorem second_localTime : (zone.localTime instant).second =
    instant.second + zone.offsetAt instant.second := by
  rw [Instant.second, localTime, Instant.shift, Instant.second,
    Int.add_mul_ediv_right _ _ (by decide)]

theorem reading_eq_ok_iff {reading : Reading} :
    zone.reading instant = .ok reading ↔
      instant.onCalendar ∧ (zone.localTime instant).onCalendar ∧ reading =
        ⟨⟨(zone.localTime instant).date, (zone.localTime instant).time⟩,
          zone.repeatedAt instant.second⟩ := by
  rw [Zone.reading, Fault.bind_eq_ok_iff]
  simp only [Instant.universal_eq_ok_iff, and_assoc, exists_and_left, exists_eq_left]
  refine and_congr_right fun h => ?_
  have hlocal : WallTime.epochMicros ⟨instant.date, instant.time⟩ +
      zone.offsetAt instant.second * 1000000 = (zone.localTime instant).ns / 1000 := by
    simp only [Instant.epochMicros_universal h, localTime, Instant.shift]
    omega
  rw [Instant.epochSeconds_universal h, hlocal]
  by_cases hcalendar : (zone.localTime instant).onCalendar
  · rw [Instant.ofEpochMicros?_eq_some_iff.mpr ⟨hcalendar, rfl⟩]
    simp [hcalendar, eq_comm]
  · have hnone : WallTime.ofEpochMicros? ((zone.localTime instant).ns / 1000) = none := by
      rw [Option.eq_none_iff_forall_not_mem]
      intro wall hwall
      exact hcalendar (Instant.ofEpochMicros?_eq_some_iff.mp hwall).1
    simp [hnone, hcalendar]

-- The instant at which the clock of the zone shows the start of a unit.
def unitStart (zone : Zone) (unit : SnapUnit) (instant : Instant) : Instant :=
  let start := (zone.localTime instant).unitStart unit
  let repeated := unit.keepsPass && zone.repeatedAt instant.second
  start.shift (-zone.wallOffset start.second repeated * 1000000000)

-- Rounding down succeeds as long as the moment, its unit's start and what the clock shows are all
-- on the calendar.
theorem snap_eq_ok_iff {unit : SnapUnit} {result : Instant} :
    instant.snap unit zone = .ok result ↔
      instant.onCalendar ∧ (zone.localTime instant).onCalendar ∧
        ((zone.localTime instant).unitStart unit).onCalendar ∧
        result = zone.unitStart unit instant := by
  simp only [Instant.snap, Fault.bind_eq_ok_iff, reading_eq_ok_iff, and_assoc, exists_and_left,
    exists_eq_left, Fault.pure_eq_ok_iff]
  refine and_congr_right fun h => and_congr_right fun hlocal => ?_
  simp only [Instant.start_eq_ok_iff hlocal, and_assoc, exists_and_left, exists_eq_left]
  refine and_congr_right fun hstart => ?_
  have hwhole := Instant.ns_unitStart (zone.localTime instant) unit
  have hinstant : zone.instantOf ⟨⟨((zone.localTime instant).unitStart unit).date,
      ((zone.localTime instant).unitStart unit).time⟩,
      unit.keepsPass && zone.repeatedAt instant.second⟩ = zone.unitStart unit instant := by
    simp only [instantOf, offsetOf, Instant.ofWall, Instant.epochSeconds_universal hstart,
      Instant.epochMicros_universal hstart, unitStart, Instant.shift, Instant.mk.injEq]
    omega
  rw [hinstant, eq_comm]

end Zone

-- A unit that is given by its letter is known.
theorem Instant.snapTo_letter (instant : Instant) (unit : SnapUnit) (zone : Zone) :
    instant.snapTo (String.singleton unit.letter) zone = instant.snap unit zone := by
  have hletter : SnapUnit.ofLetter? unit.letter = some unit := by
    cases unit <;> rfl
  cases hreading : zone.reading instant with
  | error fault => simp only [snapTo, snap, hreading, bind, Except.bind]
  | ok reading => simp [snapTo, hletter, hreading, bind, Except.bind]

-- Only such texts are units.
theorem Instant.exists_unit_of_snapTo {instant snapped : Instant} {text : String} {zone : Zone}
    (h : instant.snapTo text zone = .ok snapped) :
    ∃ unit : SnapUnit, text = String.singleton unit.letter ∧
      instant.snap unit zone = .ok snapped := by
  obtain ⟨reading, -, hsnap⟩ := Fault.bind_eq_ok_iff.mp h
  split at hsnap
  · next c htext =>
      split at hsnap
      · next unit hunit =>
          have hletter : unit.letter = c := by simpa using List.find?_some hunit
          refine ⟨unit, ?_, hsnap⟩
          rw [← String.toList_inj, htext, hletter]
          simp
      · cases hsnap
  · cases hsnap

end TimePanel
