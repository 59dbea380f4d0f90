import TimePanel.Proofs.Calendar.Literal
import TimePanel.Proofs.TimeRange.Bounds
import TimePanel.Proofs.TimeRange.LocalTime
import TimePanel.Proofs.Zone.Summer

/-! The dates that a window of time puts into a query, and when the first of them comes before the
last one. -/

namespace TimePanel

namespace Zone

-- Whether clocks are set back between two moments by more than the time from one to the other.
def SetBackBetween (zone : Zone) (first last : Int) : Prop :=
  ∃ change, first < change ∧ change ≤ last ∧
    last - first < zone.offsetAt (change - 1) - zone.offsetAt change

variable {zone : Zone} {first last : Int}

-- The clock shows less at a later moment exactly if it has been set back by more in between.
theorem FollowsFoldRules.wall_lt_iff (h : zone.FollowsFoldRules) (hle : first ≤ last) :
    last + zone.offsetAt last < first + zone.offsetAt first ↔ zone.SetBackBetween first last := by
  have hoffset (second : Int) : (zone.offsetAt second).natAbs < Instant.secondsPerDay :=
    h.isWithinDay.offsetAt second
  simp only [Instant.secondsPerDay] at hoffset
  -- Moments less than two days apart lie within a day of the one in the middle, and near that one
  -- the clock changes once.
  obtain ⟨change, hagrees⟩ := h.exists_change ((first + last) / 2)
  simp only [Instant.secondsPerDay] at hagrees
  have hnear (hclose : last - first < 172800) {second : Int} (hfirst : first ≤ second)
      (hlast : second ≤ last) : zone.offsetAt second =
        if second < change.moment then change.before else change.after :=
    hagrees.offsetAt second (by omega) (by omega)
  constructor
  · intro hback
    have hstart := hoffset first
    have hfinish := hoffset last
    have hclose : last - first < 172800 := by omega
    rw [hnear hclose hle (Int.le_refl last), hnear hclose (Int.le_refl first) hle] at hback
    obtain ⟨hafter, hbefore⟩ : first < change.moment ∧ change.moment ≤ last := by
      split at hback <;> split at hback <;> omega
    refine ⟨change.moment, hafter, hbefore, ?_⟩
    rw [if_neg (by omega), if_pos hafter] at hback
    rw [hnear hclose (by omega) (by omega), hnear hclose (by omega) hbefore, if_pos (by omega),
      if_neg (by omega)]
    omega
  · rintro ⟨moment, hafter, hbefore, hback⟩
    have hstart := hoffset (moment - 1)
    have hfinish := hoffset moment
    have hclose : last - first < 172800 := by omega
    rw [hnear hclose (by omega) (by omega), hnear hclose (by omega) hbefore] at hback
    obtain rfl : moment = change.moment := by
      split at hback <;> split at hback <;> omega
    rw [if_pos (by omega), if_neg (by omega)] at hback
    rw [hnear hclose hle (Int.le_refl last), hnear hclose (Int.le_refl first) hle,
      if_neg (by omega), if_pos hafter]
    omega

end Zone

-- What the clock of a zone shows at an instant that all clocks can show.
theorem Instant.exists_wall {instant : Instant} (h : instant.isRepresentable = true) {zone : Zone}
    (hzone : zone.IsWithinDay) : ∃ wall repeated, zone.reading instant = .ok ⟨wall, repeated⟩ ∧
      wall.IsValid ∧ wall.epochSeconds = instant.second + zone.offsetAt instant.second := by
  obtain ⟨reading, hreading⟩ := exists_reading h hzone
  obtain ⟨-, hcalendar, rfl⟩ := Zone.reading_eq_ok_iff.mp hreading
  have htime : ((zone.localTime instant).ns / 1000 % TimeOfDay.microsPerDay).toNat <
      TimeOfDay.microsPerDay := by
    simp only [TimeOfDay.microsPerDay]
    omega
  exact ⟨_, _, hreading, ⟨isValid_date hcalendar, TimeOfDay.isValid_ofMicros htime⟩,
    (epochSeconds_universal hcalendar).trans Zone.second_localTime⟩

theorem TimeBounds.filter_of_reading {bounds : TimeBounds} {column : String}
    {schema : Option ColumnDescriptor} {zone : Zone} {low high : WallTime} {first last : Bool}
    (hdates : TimeColumn.countsTime column (TimeColumn.unit column schema) = false)
    (hlow : zone.reading bounds.start = .ok ⟨low, first⟩)
    (hhigh : zone.reading bounds.finish = .ok ⟨high, last⟩) :
    bounds.filter column schema zone =
      .ok (condition column ("'" ++ low.literal ++ "'") ("'" ++ high.literal ++ "'")) := by
  simp only [filter, hdates, hlow, hhigh]
  rfl

namespace Cell

-- The filter of a column that holds dates compares it with what the clock shows at the ends of the
-- window. As wall times, the first of the two literals comes after the last one exactly if the
-- clocks are set back in between by more than the window is long. As texts, they are in the same
-- order if their years have equally many digits; otherwise it is the order of the years as texts.
theorem dates_in_order_iff {range : Cell} {dates : DateReader} {now : Instant} {source : Zone}
    {bounds : TimeBounds} (hbounds : range.bounds dates now source = .ok (some bounds))
    {zone : Zone} (hzone : zone.FollowsFoldRules) {column : String}
    {schema : Option ColumnDescriptor}
    (hdates : TimeColumn.countsTime column (TimeColumn.unit column schema) = false) :
    ∃ low high : WallTime,
      bounds.filter column schema zone = .ok
        (TimeBounds.condition column ("'" ++ low.literal ++ "'") ("'" ++ high.literal ++ "'")) ∧
      (∃ first last, zone.reading bounds.start = .ok ⟨low, first⟩ ∧
        zone.reading bounds.finish = .ok ⟨high, last⟩) ∧
      (low.epochSeconds ≤ high.epochSeconds ↔
        ¬ zone.SetBackBetween bounds.start.second bounds.finish.second) ∧
      (low.literal ≤ high.literal ↔ toString low.date.year < toString high.date.year ∨
        low.date.year = high.date.year ∧ low.epochSeconds ≤ high.epochSeconds) ∧
      ((toString low.date.year).length = (toString high.date.year).length →
        (low.literal ≤ high.literal ↔ low.epochSeconds ≤ high.epochSeconds)) := by
  obtain ⟨horder, hstart, hfinish⟩ := shown_of_bounds hbounds
  obtain ⟨low, first, hlow, hlowValid, hlowSeconds⟩ :=
    Instant.exists_wall hstart hzone.isWithinDay
  obtain ⟨high, last, hhigh, hhighValid, hhighSeconds⟩ :=
    Instant.exists_wall hfinish hzone.isWithinDay
  have hseconds : bounds.start.second ≤ bounds.finish.second :=
    Int.ediv_le_ediv (by decide) (Int.le_of_lt horder)
  refine ⟨low, high, TimeBounds.filter_of_reading hdates hlow hhigh, ⟨first, last, hlow, hhigh⟩, ?_,
    WallTime.literal_le_iff hlowValid hhighValid,
    WallTime.literal_le_iff_of_length_eq hlowValid hhighValid⟩
  rw [← hzone.wall_lt_iff hseconds, hlowSeconds, hhighSeconds, Int.not_lt]

-- Forty minutes of the night in which the clocks of New York show the hour from one to two twice,
-- and the last day of the year 999.
def repeatedHour : Cell :=
  .object
    [("kind", .text "absolute"), ("from", .text "2024-11-03T05:30:00Z"),
     ("to", .text "2024-11-03T06:10:00Z")]

def thousandthYear : Cell :=
  .object
    [("kind", .text "absolute"), ("from", .text "0999-12-31T00:00:00Z"),
     ("to", .text "1000-01-01T00:00:00Z")]

theorem dates_in_order_iff_repeatedHour : ∃ zone bounds low high,
    Zone.named? "America/New_York" = some zone ∧
    repeatedHour.bounds (.on ⟨2024, 3, 13⟩) ⟨0⟩ .utc = .ok (some bounds) ∧
    bounds.filter "created" none zone = .ok
      (TimeBounds.condition "created" ("'" ++ WallTime.literal low ++ "'")
        ("'" ++ WallTime.literal high ++ "'")) ∧
    ¬ low.epochSeconds ≤ high.epochSeconds := by
  obtain ⟨zone, hzone, hbefore, hafter⟩ : ∃ zone, Zone.named? "America/New_York" = some zone ∧
      zone.offsetAt 1730613599 = -14400 ∧ zone.offsetAt 1730613600 = -18000 :=
    ⟨_, rfl, by decide +kernel, by decide +kernel⟩
  have hbounds : repeatedHour.bounds (.on ⟨2024, 3, 13⟩) ⟨0⟩ .utc =
      .ok (some ⟨⟨1730611800000000000⟩, ⟨1730614200000000000⟩⟩) := by decide +kernel
  have hdates : TimeColumn.countsTime "created" (TimeColumn.unit "created" none) = false := by
    decide +kernel
  obtain ⟨low, high, hfilter, -, hwall, -, -⟩ :=
    dates_in_order_iff hbounds (Zone.followsFoldRules_of_named hzone) hdates
  refine ⟨zone, _, low, high, hzone, hbounds, hfilter, fun hle => hwall.mp hle ?_⟩
  refine ⟨1730613600, by decide, by decide, ?_⟩
  rw [hafter, show (1730613600 : Int) - 1 = 1730613599 from rfl, hbefore]
  decide

theorem dates_out_of_order :
    (∃ zone bounds, Zone.named? "America/New_York" = some zone ∧
      repeatedHour.bounds (.on ⟨2024, 3, 13⟩) ⟨0⟩ .utc = .ok (some bounds) ∧
      bounds.filter "created" none zone =
        .ok "created >= '2024-11-03 01:30:00' AND created <= '2024-11-03 01:10:00'") ∧
    (∃ bounds, thousandthYear.bounds (.on ⟨2024, 3, 13⟩) ⟨0⟩ .utc = .ok (some bounds) ∧
      bounds.filter "created" none .utc =
        .ok "created >= '999-12-31 00:00:00' AND created <= '1000-01-01 00:00:00'") ∧
    "2024-11-03 01:10:00" < "2024-11-03 01:30:00" ∧
    "1000-01-01 00:00:00" < "999-12-31 00:00:00" := by
  refine ⟨⟨_, ⟨⟨1730611800000000000⟩, ⟨1730614200000000000⟩⟩, rfl, ?_, ?_⟩,
    ⟨⟨⟨-30610310400000000000⟩, ⟨-30610224000000000000⟩⟩, ?_, ?_⟩, ?_, ?_⟩ <;> decide +kernel

end Cell

end TimePanel
