import TimePanel.Proofs.TimeRange.Rounding

/-! What clocks show at an instant, read back. Only what is below a microsecond is lost. -/

namespace TimePanel

namespace Zone

-- Whether all that the clock shows is read, on the pass that it is shown on, with the offset with
-- which it is shown.
structure ReadsBack (zone : Zone) : Prop where
  isWithinDay : zone.IsWithinDay
  wallOffset_shown : ∀ second,
    zone.wallOffset (second + zone.offsetAt second) (zone.repeatedAt second) = zone.offsetAt second

theorem FollowsFoldRules.readsBack {zone : Zone} (h : zone.FollowsFoldRules) : zone.ReadsBack :=
  ⟨h.isWithinDay, Zone.wallOffset_shown h⟩

theorem readsBack_of_named {name : String} {zone : Zone} (h : named? name = some zone) :
    zone.ReadsBack :=
  (followsFoldRules_of_named h).readsBack

variable {zone : Zone} {instant : Instant} {reading : Reading}

theorem offsetOf_reading (hzone : zone.ReadsBack) (h : zone.reading instant = .ok reading) :
    zone.offsetOf reading = zone.offsetAt instant.second := by
  obtain ⟨-, hlocal, rfl⟩ := reading_eq_ok_iff.mp h
  rw [offsetOf, Instant.epochSeconds_universal hlocal, second_localTime]
  exact hzone.wallOffset_shown instant.second

-- The day and the time of the day are put together again, whatever offset has moved them apart.
theorem instantOf_reading (hzone : zone.ReadsBack) (h : zone.reading instant = .ok reading) :
    zone.instantOf reading = ⟨instant.ns / 1000 * 1000⟩ := by
  rw [instantOf, offsetOf_reading hzone h]
  obtain ⟨-, hlocal, rfl⟩ := reading_eq_ok_iff.mp h
  rw [Instant.ofWall, Instant.epochMicros_universal hlocal]
  simp only [localTime, Instant.shift, Instant.mk.injEq]
  omega

end Zone

namespace Instant

-- An instant that all clocks can show is read back from any of them, on the first pass of a
-- repeated hour as on the second.
theorem ofDateTime_dateTime {instant : Instant} (h : instant.isRepresentable = true) {zone : Zone}
    (hzone : zone.ReadsBack) : ∃ value, zone.dateTime instant = .ok value ∧
      value.offset = some (zone.offsetAt instant.second) ∧
      ofDateTime value = .ok ⟨instant.ns / 1000 * 1000⟩ := by
  obtain ⟨reading, hreading⟩ := exists_reading h hzone.isWithinDay
  refine ⟨⟨reading.wall, some (zone.offsetOf reading)⟩, ?_, ?_, ?_⟩
  · rw [Zone.dateTime, hreading]
    rfl
  · rw [Zone.offsetOf_reading hzone hreading]
  · have hday : (zone.offsetOf reading).natAbs < secondsPerDay := hzone.isWithinDay.wallOffset _ _
    rw [ofDateTime, Option.getD_some, if_pos hday]
    exact congrArg Except.ok (Zone.instantOf_reading hzone hreading)

-- Half past one on a night in 1969 on which the clocks were set back at two.
def halfPastOne : WallTime := ⟨⟨1969, 10, 26⟩, ⟨1, 30, 0, 0⟩⟩

theorem ofDateTime_dateTime_halfPastOne : ∃ zone, Zone.named? "America/New_York" = some zone ∧
    zone.dateTime ⟨-5768999999999999⟩ = .ok ⟨halfPastOne, some (-14400)⟩ ∧
    ofDateTime ⟨halfPastOne, some (-14400)⟩ = .ok ⟨-5769000000000000⟩ ∧
    zone.dateTime ⟨-5765399999999999⟩ = .ok ⟨halfPastOne, some (-18000)⟩ ∧
    ofDateTime ⟨halfPastOne, some (-18000)⟩ = .ok ⟨-5765400000000000⟩ := by
  obtain ⟨zone, hzone, hfirst, hsecond⟩ : ∃ zone, Zone.named? "America/New_York" = some zone ∧
      zone.dateTime ⟨-5768999999999999⟩ = .ok ⟨halfPastOne, some (-14400)⟩ ∧
      zone.dateTime ⟨-5765399999999999⟩ = .ok ⟨halfPastOne, some (-18000)⟩ :=
    ⟨_, rfl, by decide +kernel, by decide +kernel⟩
  have hback {instant : Instant} {value : DateTime} (h : instant.isRepresentable = true)
      (hvalue : zone.dateTime instant = .ok value) :
      ofDateTime value = .ok ⟨instant.ns / 1000 * 1000⟩ := by
    obtain ⟨found, hfound, -, hback⟩ := ofDateTime_dateTime h (Zone.readsBack_of_named hzone)
    obtain rfl := Except.ok.inj (hvalue.symm.trans hfound)
    exact hback
  exact ⟨zone, hzone, hfirst, hback (by decide) hfirst, hsecond, hback (by decide) hsecond⟩

end Instant

end TimePanel
