import TimePanel.Proofs.TimeRange.Boundary
import TimePanel.Proofs.TimeRange.Bounds
import TimePanel.Proofs.TimeRange.QuickRanges
import TimePanel.Proofs.Zone.Summer

/-! Rounding down on clocks that change, where the start of a unit may never have been shown. -/

namespace TimePanel

open Instant (secondsPerDay)

namespace Instant

variable {instant : Instant} {second : Int}

theorem eq_ofSecond_iff :
    instant = ofSecond second ↔ instant.second = second ∧ instant.ns % 1000000000 = 0 := by
  obtain ⟨ns⟩ := instant
  simp only [ofSecond, Instant.second, mk.injEq]
  omega

theorem ns_inj {other : Instant} : instant.ns = other.ns ↔ instant = other := by
  constructor
  · intro h
    cases instant
    cases other
    exact congrArg mk h
  · exact congrArg ns

theorem lt_ofSecond_iff : instant.ns < (ofSecond second).ns ↔ instant.second < second := by
  simp only [ofSecond, Instant.second]
  omega

end Instant

namespace Zone

-- The clock shows an earlier wall time one second before the jump, and a later one at the jump.
def JumpsOver (zone : Zone) (wall jump : Int) : Prop :=
  jump - 1 + zone.offsetAt (jump - 1) < wall ∧ wall < jump + zone.offsetAt jump

variable {zone : Zone} {change : ClockChange} {wall second jump : Int} {repeated : Bool}

section

variable (hagree : zone.AgreesWith change.clock (wall - secondsPerDay) (wall + secondsPerDay))
include hagree

theorem offsetAt_eq (second : Int) (hge : wall - secondsPerDay ≤ second)
    (hle : second ≤ wall + secondsPerDay) : zone.offsetAt second =
      if second < change.moment then change.before else change.after :=
  hagree.offsetAt second hge hle

theorem repeatedAt_iff (second : Int) (hge : wall - secondsPerDay ≤ second)
    (hle : second ≤ wall + secondsPerDay) : zone.repeatedAt second = true ↔
      change.moment ≤ second ∧ second < change.moment + (change.before - change.after) := by
  rw [hagree.repeatedAt second hge hle]
  exact ClockChange.repeatedAt_eq_true_iff

theorem wallOffset_eq (repeated : Bool) : zone.wallOffset wall repeated =
    if wall < change.wallStart repeated then change.before else change.after :=
  hagree.wallOffset wall (by simp only [secondsPerDay]; omega) (by simp only [secondsPerDay]; omega)
    repeated

-- The only jump near a wall time is the change near it.
theorem JumpsOver.eq_change (h : zone.JumpsOver wall jump) (hwithin : zone.IsWithinDay) :
    jump = change.moment ∧ zone.offsetAt (jump - 1) = change.before ∧
      change.moment + change.before ≤ wall ∧ wall < change.moment + change.after := by
  obtain ⟨hbefore, hafter⟩ := h
  have hdayBefore := hwithin.offsetAt (jump - 1)
  have hdayAfter := hwithin.offsetAt jump
  have hold := offsetAt_eq hagree (jump - 1) (by omega) (by omega)
  have hnew := offsetAt_eq hagree jump (by omega) (by omega)
  split at hold <;> split at hnew <;> omega

theorem jumpsOver_change (hge : wall - secondsPerDay < change.moment)
    (hle : change.moment ≤ wall + secondsPerDay) (hbefore : change.moment + change.before ≤ wall)
    (hafter : wall < change.moment + change.after) :
    zone.JumpsOver wall change.moment ∧ zone.offsetAt (change.moment - 1) = change.before := by
  have hold := offsetAt_eq hagree (change.moment - 1) (by omega) (by omega)
  have hnew := offsetAt_eq hagree change.moment (by omega) (by omega)
  rw [if_pos (by omega)] at hold
  rw [if_neg (by omega)] at hnew
  exact ⟨⟨by omega, by omega⟩, hold⟩

end

section

-- A wall time that the clock has passed, read on a pass that the clock has reached.
variable (hzone : zone.FollowsFoldRules) (hreached : wall ≤ second + zone.offsetAt second)
  (hpass : repeated = true → zone.repeatedAt second = true)
include hzone hreached hpass

-- If it leads back by too little, the clock jumped over it, and it is read by the old offset.
theorem exists_jumpsOver (hlt : zone.wallOffset wall repeated < zone.offsetAt second)
    (hle : second ≤ wall - zone.wallOffset wall repeated) :
    ∃ jump, zone.JumpsOver wall jump ∧
      zone.offsetAt (jump - 1) = zone.wallOffset wall repeated := by
  obtain ⟨change, hagree⟩ := hzone.exists_change wall
  have hday := hzone.isWithinDay.offsetAt second
  have hwallDay := hzone.isWithinDay.wallOffset wall repeated
  have hoffset := offsetAt_eq hagree second (by omega) (by omega)
  have hrepeated := repeatedAt_iff hagree second (by omega) (by omega)
  have hwall := wallOffset_eq hagree repeated
  rw [ClockChange.wallStart] at hwall
  have hjump : change.moment ≤ second ∧ change.moment + change.before ≤ wall ∧
      wall < change.moment + change.after ∧ zone.wallOffset wall repeated = change.before := by
    cases repeated with
    | true =>
        have hpassed := hrepeated.mp (hpass rfl)
        rw [if_pos rfl] at hwall
        omega
    | false =>
        rw [if_neg Bool.false_ne_true] at hwall
        omega
  obtain ⟨hpast, hbefore, hafter, hback⟩ := hjump
  obtain ⟨hjumps, hold⟩ := jumpsOver_change hagree (by omega) (by omega) hbefore hafter
  exact ⟨change.moment, hjumps, hold.trans hback.symm⟩

theorem wallOffset_of_jumpsOver (hjump : zone.JumpsOver wall jump)
    (hle : second ≤ wall - zone.offsetAt (jump - 1)) :
    zone.wallOffset wall repeated = zone.offsetAt (jump - 1) := by
  obtain ⟨change, hagree⟩ := hzone.exists_change wall
  obtain ⟨rfl, hold, hbefore, hafter⟩ := hjump.eq_change hagree hzone.isWithinDay
  have hday := hzone.isWithinDay.offsetAt second
  have hdayBefore := hzone.isWithinDay.offsetAt (change.moment - 1)
  have hrepeated := repeatedAt_iff hagree second (by omega) (by omega)
  have hwall := wallOffset_eq hagree repeated
  rw [ClockChange.wallStart] at hwall
  cases repeated with
  | true =>
      have hpassed := hrepeated.mp (hpass rfl)
      omega
  | false =>
      rw [if_neg Bool.false_ne_true] at hwall
      omega

theorem lt_sub_wallOffset_iff : second < wall - zone.wallOffset wall repeated ↔
    ∃ jump, zone.JumpsOver wall jump ∧ second < wall - zone.offsetAt (jump - 1) := by
  constructor
  · intro hahead
    obtain ⟨jump, hjump, hold⟩ := exists_jumpsOver hzone hreached hpass (by omega) (by omega)
    exact ⟨jump, hjump, by omega⟩
  · rintro ⟨jump, hjump, hahead⟩
    rwa [wallOffset_of_jumpsOver hzone hreached hpass hjump (by omega)]

end

-- What the clock shows is read back to the same second, on the pass that it was shown on.
theorem wallOffset_shown (hzone : zone.FollowsFoldRules) (second : Int) :
    zone.wallOffset (second + zone.offsetAt second) (zone.repeatedAt second) =
      zone.offsetAt second := by
  obtain ⟨change, hagree⟩ := hzone.exists_change (second + zone.offsetAt second)
  have hday := hzone.isWithinDay.offsetAt second
  have hoffset := offsetAt_eq hagree second (by omega) (by omega)
  have hrepeated := repeatedAt_iff hagree second (by omega) (by omega)
  have hwall := wallOffset_eq hagree (zone.repeatedAt second)
  rw [ClockChange.wallStart] at hwall
  cases hpass : zone.repeatedAt second with
  | true =>
      rw [hpass, if_pos rfl] at hwall
      have hpassed := hrepeated.mp hpass
      omega
  | false =>
      rw [hpass, if_neg Bool.false_ne_true] at hwall
      rw [hpass] at hrepeated
      have hfirst : ¬ (change.moment ≤ second ∧
          second < change.moment + (change.before - change.after)) :=
        fun hpassed => Bool.false_ne_true (hrepeated.mpr hpassed)
      omega

-- On the first pass something that is shown again is read back to an earlier second.
theorem sub_wallOffset_lt (hzone : zone.FollowsFoldRules) (hagain : zone.repeatedAt second = true) :
    second + zone.offsetAt second - zone.wallOffset (second + zone.offsetAt second) false <
      second := by
  obtain ⟨change, hagree⟩ := hzone.exists_change (second + zone.offsetAt second)
  have hday := hzone.isWithinDay.offsetAt second
  have hoffset := offsetAt_eq hagree second (by omega) (by omega)
  have hpassed := (repeatedAt_iff hagree second (by omega) (by omega)).mp hagain
  have hwall := wallOffset_eq hagree false
  rw [ClockChange.wallStart, if_neg Bool.false_ne_true] at hwall
  omega

-- A wall time is read back to the very second either if the clock shows it then, on the pass that
-- is meant, or if it would have shown it then had it not jumped over it.
theorem eq_sub_wallOffset_iff (hzone : zone.FollowsFoldRules)
    (hreached : wall ≤ second + zone.offsetAt second)
    (hpass : repeated = true → zone.repeatedAt second = true) :
    second = wall - zone.wallOffset wall repeated ↔
      (wall = second + zone.offsetAt second ∧ (zone.repeatedAt second = true → repeated = true)) ∨
        ∃ jump, zone.JumpsOver wall jump ∧ second = wall - zone.offsetAt (jump - 1) := by
  constructor
  · intro hsame
    by_cases hshown : wall = second + zone.offsetAt second
    · subst hshown
      refine .inl ⟨rfl, fun hagain => ?_⟩
      by_contra hfirst
      rw [Bool.not_eq_true] at hfirst
      rw [hfirst] at hsame
      have hearlier := sub_wallOffset_lt hzone hagain
      omega
    · obtain ⟨jump, hjump, hold⟩ := exists_jumpsOver hzone hreached hpass (by omega) (by omega)
      exact .inr ⟨jump, hjump, by omega⟩
  · rintro (⟨rfl, hagain⟩ | ⟨jump, hjump, hsame⟩)
    · have hown : repeated = zone.repeatedAt second := Bool.eq_iff_iff.mpr ⟨hpass, hagain⟩
      rw [hown, wallOffset_shown hzone]
      omega
    · rwa [wallOffset_of_jumpsOver hzone hreached hpass hjump (by omega)]

variable {instant snapped : Instant} {unit : SnapUnit}

-- The wall time at which the unit began that an instant lies in.
def startWall (zone : Zone) (unit : SnapUnit) (instant : Instant) : Int :=
  ((zone.localTime instant).unitStart unit).second

-- The moment at which the clock would have shown this start, had it not jumped over it.
def IsSkippedStart (zone : Zone) (unit : SnapUnit) (instant start : Instant) : Prop :=
  ∃ jump, zone.JumpsOver (zone.startWall unit instant) jump ∧
    start = .ofSecond (zone.startWall unit instant - zone.offsetAt (jump - 1))

theorem unitStart_localTime (zone : Zone) (unit : SnapUnit) (instant : Instant) :
    (zone.localTime instant).unitStart unit = .ofSecond (zone.startWall unit instant) := by
  have hwhole := Instant.ns_unitStart (zone.localTime instant) unit
  exact Instant.eq_ofSecond_iff.mpr ⟨rfl, by omega⟩

theorem unitStart_eq (zone : Zone) (unit : SnapUnit) (instant : Instant) :
    zone.unitStart unit instant = .ofSecond (zone.startWall unit instant -
      zone.wallOffset (zone.startWall unit instant)
        (unit.keepsPass && zone.repeatedAt instant.second)) := by
  refine (congrArg (Instant.shift · (-zone.wallOffset (zone.startWall unit instant)
    (unit.keepsPass && zone.repeatedAt instant.second) * 1000000000))
      (unitStart_localTime zone unit instant)).trans ?_
  simp only [Instant.ofSecond, Instant.shift, Instant.mk.injEq]
  omega

theorem startWall_le (hlocal : (zone.localTime instant).onCalendar) (unit : SnapUnit) :
    zone.startWall unit instant ≤ instant.second + zone.offsetAt instant.second := by
  have hle := Instant.unitStart_le hlocal unit
  rw [unitStart_localTime] at hle
  simp only [Instant.ofSecond, localTime, Instant.shift, Instant.second] at hle ⊢
  omega

theorem unitStart_eq_localTime_iff : (zone.localTime instant).unitStart unit =
    zone.localTime instant ↔ zone.startWall unit instant =
      instant.second + zone.offsetAt instant.second ∧ instant.ns % 1000000000 = 0 := by
  rw [unitStart_localTime, eq_comm, Instant.eq_ofSecond_iff]
  simp only [localTime, Instant.shift, Instant.second]
  omega

section

variable (hzone : zone.FollowsFoldRules) (hcalendar : instant.onCalendar)
  (hlocal : (zone.localTime instant).onCalendar)
include hzone hlocal

theorem lt_unitStart_iff (unit : SnapUnit) : instant.ns < (zone.unitStart unit instant).ns ↔
    ∃ start, zone.IsSkippedStart unit instant start ∧ instant.ns < start.ns := by
  have hreached := startWall_le hlocal unit
  rw [unitStart_eq, Instant.lt_ofSecond_iff,
    lt_sub_wallOffset_iff hzone hreached fun hboth => (Bool.and_eq_true_iff.mp hboth).2]
  constructor
  · rintro ⟨jump, hjump, hlt⟩
    exact ⟨_, ⟨jump, hjump, rfl⟩, Instant.lt_ofSecond_iff.mpr hlt⟩
  · rintro ⟨start, ⟨jump, hjump, rfl⟩, hlt⟩
    exact ⟨jump, hjump, Instant.lt_ofSecond_iff.mp hlt⟩

include hcalendar

theorem unitStart_eq_self_iff (unit : SnapUnit) : zone.unitStart unit instant = instant ↔
    zone.IsBoundary unit instant ∧
        (zone.repeatedAt instant.second = true → unit.keepsPass = true) ∨
      zone.IsSkippedStart unit instant instant := by
  have hreached := startWall_le hlocal unit
  rw [unitStart_eq, eq_comm, Instant.eq_ofSecond_iff,
    eq_sub_wallOffset_iff hzone hreached fun hboth => (Bool.and_eq_true_iff.mp hboth).2,
    isBoundary_iff, unitStart_eq_localTime_iff]
  simp only [IsSkippedStart, Instant.eq_ofSecond_iff, hcalendar, hlocal, true_and,
    Bool.and_eq_true]
  constructor
  · rintro ⟨⟨hshown, hpass⟩ | ⟨jump, hjump, hsecond⟩, hwhole⟩
    · exact .inl ⟨⟨hshown, hwhole⟩, fun hagain => (hpass hagain).1⟩
    · exact .inr ⟨jump, hjump, hsecond, hwhole⟩
  · rintro (⟨⟨hshown, hwhole⟩, hpass⟩ | ⟨jump, hjump, hsecond, hwhole⟩)
    · exact ⟨.inl ⟨hshown, fun hagain => ⟨hpass hagain, hagain⟩⟩, hwhole⟩
    · exact ⟨.inr ⟨jump, hjump, hsecond⟩, hwhole⟩

end

end Zone

-- The range from the start of the current unit until now.
def SnapUnit.untilNow (unit : SnapUnit) : Cell :=
  .object [("from", .text ("now/" ++ String.singleton unit.letter)), ("to", .text "now")]

namespace Instant

variable {zone : Zone} {instant snapped : Instant} {unit : SnapUnit}

theorem bounds_untilNow (h : instant.snap unit zone = .ok snapped) (dates : DateReader) :
    unit.untilNow.bounds dates instant zone =
      .ok (if snapped.isRepresentable = true ∧ instant.isRepresentable = true ∧
        snapped.ns < instant.ns then some ⟨snapped, instant⟩ else none) := by
  have hdescriptor : RangeDescriptor.ofCell unit.untilNow =
      some (.query ("now/" ++ String.singleton unit.letter) "now" true none) := by
    cases unit <;> rfl
  have htext : TimeExpression.ofString ("now/" ++ String.singleton unit.letter) =
      .snapped unit := by
    cases unit <;> decide
  have hstart : (Cell.text ("now/" ++ String.singleton unit.letter)).boundInstant dates instant
      zone = .ok (if snapped.isRepresentable then some snapped else none) := by
    apply Cell.boundInstant_of_evaluate htext (by simp)
    rw [TimeExpression.evaluate, h]
    rfl
  have hnow : TimeExpression.ofString "now" = .now := by decide
  have hfinish : (Cell.text "now").boundInstant dates instant zone =
      .ok (if instant.isRepresentable then some instant else none) :=
    Cell.boundInstant_of_evaluate hnow (by simp) rfl
  have hends : RangeDescriptor.endpoints dates instant zone
      (.query ("now/" ++ String.singleton unit.letter) "now" true none) =
        .ok (if snapped.isRepresentable then some snapped else none,
          if instant.isRepresentable then some instant else none) := by
    refine Fault.bind_eq_ok_iff.mpr ⟨_, hstart, Fault.bind_eq_ok_iff.mpr ⟨_, hfinish, rfl⟩⟩
  rw [Cell.bounds, hdescriptor]
  dsimp only
  rw [RangeDescriptor.bounds_of_not_isDisabled rfl, hends]
  refine congrArg Except.ok ?_
  cases snapped.isRepresentable <;> cases instant.isRepresentable <;> simp [TimeBounds.between?]

-- Rounding down leads ahead of an instant exactly if the clock jumped over the start of the unit
-- and has not yet come to the moment at which it would have shown this start otherwise. The range
-- from the start of the unit until now is missing then, and where the start is now: because the
-- unit begins now, or because it would have begun now had the clock not jumped over its start.
theorem lt_snap_iff_skipped (hzone : zone.FollowsFoldRules) {text : String}
    (h : instant.snapTo text zone = .ok snapped) (dates : DateReader) :
    ∃ unit : SnapUnit, text = String.singleton unit.letter ∧
      (instant.ns < snapped.ns ↔
        ∃ start, zone.IsSkippedStart unit instant start ∧ instant.ns < start.ns) ∧
      (snapped = instant ↔
        zone.IsBoundary unit instant ∧
            (zone.repeatedAt instant.second = true → unit.keepsPass = true) ∨
          zone.IsSkippedStart unit instant instant) ∧
      ∃ found, unit.untilNow.bounds dates instant zone = .ok found ∧
        (found = none ↔ snapped.isRepresentable = false ∨ instant.isRepresentable = false ∨
          snapped = instant ∨
            ∃ start, zone.IsSkippedStart unit instant start ∧ instant.ns < start.ns) ∧
        ∀ bounds, found = some bounds → bounds = ⟨snapped, instant⟩ ∧ snapped.ns < instant.ns := by
  obtain ⟨unit, htext, hsnap⟩ := exists_unit_of_snapTo h
  obtain ⟨hcalendar, hlocal, -, rfl⟩ := Zone.snap_eq_ok_iff.mp hsnap
  have hahead := Zone.lt_unitStart_iff hzone hlocal unit
  have hsame := Zone.unitStart_eq_self_iff hzone hcalendar hlocal unit
  refine ⟨unit, htext, hahead, hsame, _, bounds_untilNow hsnap dates, ?_, ?_⟩
  · have hlate : ¬ (zone.unitStart unit instant).ns < instant.ns ↔
        zone.unitStart unit instant = instant ∨ instant.ns < (zone.unitStart unit instant).ns := by
      rw [← ns_inj]
      omega
    rw [← hahead, ← hlate]
    simp only [ite_eq_right_iff, reduceCtorEq, imp_false, not_and_or, Bool.not_eq_true]
  · intro bounds hbounds
    split at hbounds
    · next hordered =>
        cases hbounds
        exact ⟨rfl, hordered.2.2⟩
    · cases hbounds

theorem lt_snap_iff_skipped_stJohns : ∃ zone start,
    Zone.named? "America/St_Johns" = some zone ∧
      (Instant.mk 1299987600000000000).snapTo "h" zone = .ok ⟨1299990600000000000⟩ ∧
      zone.IsSkippedStart .hour ⟨1299987600000000000⟩ start ∧ 1299987600000000000 < start.ns := by
  have hzone : Zone.named? "America/St_Johns" =
      some (ZoneHistory.stJohns.zone "America/St_Johns") := rfl
  have hsnap : (Instant.mk 1299987600000000000).snapTo "h"
      (ZoneHistory.stJohns.zone "America/St_Johns") = .ok ⟨1299990600000000000⟩ := by
    decide +kernel
  obtain ⟨unit, hunit, hahead, -⟩ := lt_snap_iff_skipped (Zone.followsFoldRules_of_named hzone)
    hsnap (.on ⟨2011, 3, 13⟩)
  obtain rfl : SnapUnit.hour = unit := by
    cases unit <;> first | rfl | exact absurd hunit (by decide)
  obtain ⟨start, hskipped, hlt⟩ := hahead.mp (by decide)
  exact ⟨_, start, hzone, hsnap, hskipped, hlt⟩

-- In 2011 the clocks of this place jumped from one minute past midnight to one minute past one, and
-- never showed the start of the hour that they were in then. For 59 minutes it was still ahead.
theorem snap_stJohns_ahead : ∃ zone snapped,
    Zone.named? "America/St_Johns" = some zone ∧
      (Instant.mk 1299987600000000000).snapTo "h" zone = .ok snapped ∧
      1299987600000000000 < snapped.ns ∧ ¬ zone.IsBoundary .hour ⟨1299987600000000000⟩ ∧
      SnapUnit.hour.untilNow.bounds (.on ⟨2011, 3, 13⟩) ⟨1299987600000000000⟩ zone = .ok none := by
  refine ⟨ZoneHistory.stJohns.zone "America/St_Johns", ⟨1299990600000000000⟩, rfl,
    by decide +kernel, by decide, fun hboundary => ?_, by decide +kernel⟩
  obtain ⟨-, -, hstart⟩ := Zone.isBoundary_iff.mp hboundary
  exact absurd hstart (by decide +kernel)

end Instant

end TimePanel
