import TimePanel.Presets.Standard
import TimePanel.Proofs.TimeRange.Snap
import TimePanel.TimeRange.Bounds

/-! Where the ranges that are offered out of the box lead to in universal time. -/

namespace TimePanel

open Calendar

section

variable {dates : DateReader} {now : Instant} {zone : Zone}

-- What a text means, without the blanks around it.
def TimeExpression.ofString (text : String) : TimeExpression := ofText (Text.strip text.toList)

-- A moment that a text means is a bound if it can be shown in every zone.
theorem Cell.boundInstant_of_evaluate {text : String} {expression : TimeExpression}
    {found : Instant} (htext : TimeExpression.ofString text = expression)
    (hkind : expression ≠ .written [])
    (hfound : expression.evaluate dates now zone = .ok (some found)) :
    (Cell.text text).boundInstant dates now zone =
      .ok (if found.isRepresentable then some found else none) := by
  have hempty : (Text.strip text.toList).isEmpty = false := by
    rw [← Bool.not_eq_true, List.isEmpty_iff]
    intro hempty
    rw [TimeExpression.ofString, hempty] at htext
    exact hkind (htext.symm.trans (by decide))
  rw [← htext, TimeExpression.ofString] at hfound
  simp [Cell.boundInstant, Cell.instant?, hempty, hfound]

theorem Cell.boundInstant_text {text : String} {expression : TimeExpression} {found : Instant}
    (htext : TimeExpression.ofString text = expression) (hkind : expression ≠ .written [])
    (hfound : expression.evaluate dates now zone = .ok (some found))
    (hshown : found.isRepresentable = true) :
    (Cell.text text).boundInstant dates now zone = .ok (some found) := by
  rw [boundInstant_of_evaluate htext hkind hfound, if_pos hshown]

namespace QuickRange

variable {range : QuickRange}

theorem ofCell_toCell (range : QuickRange) : RangeDescriptor.ofCell range.toCell =
    some (.query range.start range.finish range.enabled (some range.display)) := rfl

-- The window of a range that is switched on, given its ends.
theorem bounds_of_ends {first last : Instant} (henabled : range.enabled = true)
    (hfirst : (Cell.text range.start).boundInstant dates now zone = .ok (some first))
    (hlast : (Cell.text range.finish).boundInstant dates now zone = .ok (some last)) :
    range.toCell.bounds dates now zone =
      .ok (if first.ns < last.ns then some ⟨first, last⟩ else none) := by
  simp only [Cell.bounds, ofCell_toCell, RangeDescriptor.bounds, RangeDescriptor.isDisabled,
    RangeDescriptor.endpoints, RangeDescriptor.start, RangeDescriptor.effectiveFinish,
    RangeDescriptor.finish, RangeEnd.toCell, henabled, hfirst, hlast]
  rfl

-- Ranges from a fixed time ago until now, those from the start of a unit until now, and those from
-- the start of a unit in which a span ago lies to the start of the one in which now lies.
def isRolling (range : QuickRange) : Bool :=
  range.enabled && TimeExpression.ofString range.finish = .now &&
    match TimeExpression.ofString range.start with
    | .shifted false amount span none =>
        (Literal.integer? amount).any fun count =>
          0 < count ∧ count * span.nanos ≤ 365 * Instant.nanosPerDay
    | _ => false

def isCurrent (unit : SnapUnit) (range : QuickRange) : Bool :=
  range.enabled && TimeExpression.ofString range.start = .snapped unit &&
    TimeExpression.ofString range.finish = .now

def isPrevious (span : Span) (unit : SnapUnit) (range : QuickRange) : Bool :=
  range.enabled && TimeExpression.ofString range.start = .shifted false ['1'] span (some unit) &&
    TimeExpression.ofString range.finish = .snapped unit

section

variable (hnow : now.inYears 1970 9998)
include hnow

theorem bounds_of_isRolling (hrange : range.isRolling = true) :
    ∃ first, first.ns < now.ns ∧
      range.toCell.bounds dates now zone = .ok (some ⟨first, now⟩) := by
  simp only [isRolling, Bool.and_eq_true, decide_eq_true_eq] at hrange
  obtain ⟨⟨henabled, hfinish⟩, hstart⟩ := hrange
  split at hstart
  · next amount span hparsed =>
    obtain ⟨count, hcount, hlimits⟩ := (Option.any_eq_true ..).mp hstart
    rw [decide_eq_true_eq, Instant.nanosPerDay] at hlimits
    have hpositive : 0 < count * span.nanos :=
      Int.mul_pos hlimits.1 (by cases span <;> decide)
    have horder : (now.shift (-(count * span.nanos))).ns < now.ns := by
      simp only [Instant.shift]
      omega
    have hback : now.ns - 731 * Instant.nanosPerDay ≤ (now.shift (-(count * span.nanos))).ns := by
      simp only [Instant.shift, Instant.nanosPerDay]
      omega
    obtain ⟨-, -, hshown⟩ := Instant.onCalendar_of_inYears _ hnow hback (Int.le_of_lt horder)
    have hfirst : (Cell.text range.start).boundInstant dates now zone =
        .ok (some (now.shift (-(count * span.nanos)))) := by
      apply Cell.boundInstant_text hparsed (by simp) _ hshown
      simp only [TimeExpression.evaluate, TimeExpression.amountOf, hcount]
      rfl
    have hlast : (Cell.text range.finish).boundInstant dates now zone = .ok (some now) :=
      Cell.boundInstant_text hfinish (by simp) rfl (Instant.onCalendar_now hnow).2
    exact ⟨_, horder, by rw [bounds_of_ends henabled hfirst hlast, if_pos horder]⟩
  · cases hstart

theorem boundInstant_snapped {text : String} {unit : SnapUnit}
    (htext : TimeExpression.ofString text = .snapped unit) :
    (Cell.text text).boundInstant dates now Zone.utc = .ok (some (now.unitStart unit)) := by
  have hback : now.ns - 365 * Instant.nanosPerDay ≤ now.ns := by
    simp only [Instant.nanosPerDay]
    omega
  obtain ⟨hsnap, hshown⟩ := Instant.snap_of_inYears now hnow hback (Int.le_refl _) unit
  apply Cell.boundInstant_text htext (by simp) _ hshown
  simp only [TimeExpression.evaluate, hsnap]
  rfl

theorem bounds_of_isCurrent {unit : SnapUnit} (hrange : range.isCurrent unit = true) :
    range.toCell.bounds dates now Zone.utc =
      .ok (if (now.unitStart unit).ns < now.ns then some ⟨now.unitStart unit, now⟩ else none) := by
  simp only [isCurrent, Bool.and_eq_true, decide_eq_true_eq] at hrange
  obtain ⟨⟨henabled, hstart⟩, hfinish⟩ := hrange
  have hlast : (Cell.text range.finish).boundInstant dates now Zone.utc = .ok (some now) :=
    Cell.boundInstant_text hfinish (by simp) rfl (Instant.onCalendar_now hnow).2
  exact bounds_of_ends henabled (boundInstant_snapped hnow hstart) hlast

theorem bounds_of_isPrevious {span : Span} {unit : SnapUnit}
    (hrange : range.isPrevious span unit = true) :
    range.toCell.bounds dates now Zone.utc =
      .ok (if ((now.shift (-span.nanos)).unitStart unit).ns < (now.unitStart unit).ns
        then some ⟨(now.shift (-span.nanos)).unitStart unit, now.unitStart unit⟩ else none) := by
  simp only [isPrevious, Bool.and_eq_true, decide_eq_true_eq] at hrange
  obtain ⟨⟨henabled, hstart⟩, hfinish⟩ := hrange
  have hspan : 0 < (span.nanos : Int) ∧ (span.nanos : Int) ≤ 365 * Instant.nanosPerDay := by
    cases span <;> decide
  have hback : now.ns - 365 * Instant.nanosPerDay ≤ (now.shift (-span.nanos)).ns := by
    simp only [Instant.shift]
    omega
  have hle : (now.shift (-span.nanos)).ns ≤ now.ns := by
    simp only [Instant.shift]
    omega
  obtain ⟨hsnap, hshown⟩ := Instant.snap_of_inYears _ hnow hback hle unit
  have hfirst : (Cell.text range.start).boundInstant dates now Zone.utc =
      .ok (some ((now.shift (-span.nanos)).unitStart unit)) := by
    apply Cell.boundInstant_text hstart (by simp) _ hshown
    have hone : TimeExpression.amountOf ['1'] = .ok 1 := rfl
    simp only [TimeExpression.evaluate, hone, bind, Except.bind, Int.one_mul, Bool.false_eq_true,
      if_false, hsnap]
    rfl
  exact bounds_of_ends henabled hfirst (boundInstant_snapped hnow hfinish)

end

-- The ranges of the last kind that are offered.
def previousKinds : List (String × Span × SnapUnit) :=
  [("Yesterday", .day, .day), ("Previous week", .week, .week), ("Previous month", .month, .month),
   ("Previous year", .year, .year)]

theorem quickRanges_kinds : ∀ range ∈ Presets.quickRanges,
    range.isRolling = true ∨
      (∃ unit ∈ [SnapUnit.day, .week, .month, .year], range.isCurrent unit = true) ∨
      ∃ kind ∈ previousKinds,
        range.display = kind.1 ∧ range.isPrevious kind.2.1 kind.2.2 = true := by
  decide +kernel

end QuickRange

end

namespace Presets

open QuickRange

-- The window of the range that is offered under a name, in universal time.
def windowOf (display : String) (dates : DateReader) (now : Instant) :
    Except Fault (Option TimeBounds) :=
  match quickRange? display with
  | some range => range.toCell.bounds dates now Zone.utc
  | none => .ok none

theorem ofDate_eq_iff {a b : Date} :
    Instant.ofDate a = Instant.ofDate b ↔ a.ordinal = b.ordinal := by
  simp only [Instant.ofDate, Instant.ofDay, Instant.mk.injEq, Date.epochDay, Instant.nanosPerDay]
  omega

-- Whether there is a window from the start of one date to that of another, and whether it is the
-- window that was expected.
theorem dates_window {start wanted last : Date} {resolves agrees : Prop}
    (horder : start.ordinal < last.ordinal ↔ resolves)
    (hwanted : start.ordinal = wanted.ordinal ↔ agrees) (hagrees : agrees → resolves)
    {window : Except Fault (Option TimeBounds)}
    (hwindow : window = .ok (if (Instant.ofDate start).ns < (Instant.ofDate last).ns then
      some ⟨.ofDate start, .ofDate last⟩ else none)) :
    ((∃ bounds, window = .ok (some bounds)) ↔ resolves) ∧
      (window = .ok (some ⟨.ofDate wanted, .ofDate last⟩) ↔ agrees) := by
  have hns : (Instant.ofDate start).ns < (Instant.ofDate last).ns ↔ resolves := by
    rw [← horder]
    simp only [Instant.ofDate_ns, Instant.nanosPerDay]
    omega
  rw [hwindow]
  by_cases hresolves : resolves
  · rw [if_pos (hns.mpr hresolves), ← hwanted, ← ofDate_eq_iff]
    simp [hresolves]
  · rw [if_neg (mt hns.mp hresolves)]
    simp [hresolves, mt hagrees hresolves]

section

variable {now : Instant} (hnow : now.inYears 1970 9998) (dates : DateReader)
include hnow

theorem windowOf_previous (display : String) (span : Span) (unit : SnapUnit)
    (hkind : (display, span, unit) ∈ previousKinds) :
    windowOf display dates now =
      .ok (if ((now.shift (-span.nanos)).unitStart unit).ns < (now.unitStart unit).ns
        then some ⟨(now.shift (-span.nanos)).unitStart unit, now.unitStart unit⟩ else none) := by
  have hfound : ∀ kind ∈ previousKinds,
      (quickRange? kind.1).any (fun range => range.isPrevious kind.2.1 kind.2.2) = true := by
    decide +kernel
  obtain ⟨range, hrange, hprevious⟩ := (Option.any_eq_true ..).mp (hfound _ hkind)
  rw [windowOf, hrange]
  exact bounds_of_isPrevious hnow hprevious

-- The date a number of days earlier.
theorem date_shift (days : Nat) (hdays : days ≤ 365) :
    (now.shift (-(days * Instant.nanosPerDay))).onCalendar ∧
      (now.shift (-(days * Instant.nanosPerDay))).day = now.day - days ∧
      (now.shift (-(days * Instant.nanosPerDay))).date.ordinal + days = now.date.ordinal := by
  have hback : now.ns - 731 * Instant.nanosPerDay ≤
      (now.shift (-(days * Instant.nanosPerDay))).ns := by
    simp only [Instant.shift, Instant.nanosPerDay]
    omega
  have hle : (now.shift (-(days * Instant.nanosPerDay))).ns ≤ now.ns := by
    simp only [Instant.shift, Instant.nanosPerDay]
    omega
  obtain ⟨hcalendarBack, -, -⟩ := Instant.onCalendar_of_inYears _ hnow hback hle
  have hday : (now.shift (-(days * Instant.nanosPerDay))).day = now.day - days := by
    simp only [Instant.shift, Instant.day, Instant.nanosPerDay]
    omega
  have hordinal := Instant.ordinal_date (Instant.onCalendar_now hnow).1
  have hordinalBack := Instant.ordinal_date hcalendarBack
  exact ⟨hcalendarBack, hday, by omega⟩

-- There are months and years before.
theorem one_lt_year (hcalendar : now.onCalendar) : 1 < now.date.year := by
  have hvalid := Instant.isValid_date hcalendar
  have hordinal := Instant.ordinal_date hcalendar
  have hfirst : (Instant.ofDate ⟨1970, 1, 1⟩).ns = 0 := by decide
  have hsince := hnow.1
  obtain ⟨hyear, -, -, -, -, -⟩ := Date.isValid_iff.mp hvalid
  refine Nat.lt_of_le_of_ne hyear fun hone => ?_
  have hlt := (Date.ordinal_lt_yearStart hvalid).2
  have hstart : now.date.yearStart.ordinal = 1 := by
    rw [Date.yearStart, ← hone]
    rfl
  have hlength : daysInYear now.date.year = 365 := by
    rw [← hone]
    rfl
  simp only [Instant.day, Instant.nanosPerDay, epochOrdinal] at hordinal
  omega

theorem windowOf_yesterday : windowOf "Yesterday" dates now =
    .ok (some ⟨.ofDay (now.day - 1), .ofDay now.day⟩) := by
  obtain ⟨-, hday, -⟩ := date_shift hnow 1 (by decide)
  have hspan : (Span.day.nanos : Int) = (1 : Nat) * Instant.nanosPerDay := by decide
  rw [windowOf_previous hnow dates "Yesterday" .day .day (by decide), hspan, Instant.unitStart,
    hday, Instant.unitStart, if_pos]
  · rfl
  · simp only [Instant.ofDay, Instant.nanosPerDay]
    omega

theorem windowOf_previous_week : windowOf "Previous week" dates now =
    .ok (some ⟨.ofDay (Instant.weekStart now.day - 7), .ofDay (Instant.weekStart now.day)⟩) := by
  obtain ⟨-, hday, -⟩ := date_shift hnow 7 (by decide)
  have hspan : (Span.week.nanos : Int) = (7 : Nat) * Instant.nanosPerDay := by decide
  have hweek : Instant.weekStart (now.day - (7 : Nat)) = Instant.weekStart now.day - 7 := by
    simp only [Instant.weekStart]
    omega
  rw [windowOf_previous hnow dates "Previous week" .week .week (by decide), hspan,
    Instant.unitStart, hday, hweek, Instant.unitStart, if_pos]
  simp only [Instant.ofDay, Instant.nanosPerDay]
  omega

theorem windowOf_previous_month :
    ((∃ bounds, windowOf "Previous month" dates now = .ok (some bounds)) ↔ now.date.day ≤ 30) ∧
      (windowOf "Previous month" dates now =
          .ok (some ⟨.ofDate now.date.previousMonth, .ofDate now.date.monthStart⟩) ↔
        now.date.day ≤ 30 ∧ 31 ≤ now.date.day +
          daysInMonth now.date.previousMonth.year now.date.previousMonth.month) := by
  have hcalendar := (Instant.onCalendar_now hnow).1
  obtain ⟨hcalendarBack, -, hordinal⟩ := date_shift hnow 30 (by decide)
  have hspan : (Span.month.nanos : Int) = (30 : Nat) * Instant.nanosPerDay := by decide
  have hwindow := windowOf_previous hnow dates "Previous month" .month .month (by decide)
  rw [hspan] at hwindow
  obtain ⟨horder, hexact⟩ := Date.monthStart_thirty_days_before (Instant.isValid_date hcalendar)
    (Instant.isValid_date hcalendarBack) (one_lt_year hnow hcalendar) hordinal
  exact dates_window horder hexact And.left hwindow

theorem windowOf_previous_year :
    ((∃ bounds, windowOf "Previous year" dates now = .ok (some bounds)) ↔
        ¬ (isLeapYear now.date.year = true ∧ now.date.month = 12 ∧ now.date.day = 31)) ∧
      (windowOf "Previous year" dates now =
          .ok (some ⟨.ofDate now.date.previousYear, .ofDate now.date.yearStart⟩) ↔
        ¬ (isLeapYear now.date.year = true ∧ now.date.month = 12 ∧ now.date.day = 31)) := by
  have hcalendar := (Instant.onCalendar_now hnow).1
  obtain ⟨hcalendarBack, -, hordinal⟩ := date_shift hnow 365 (by decide)
  have hspan : (Span.year.nanos : Int) = (365 : Nat) * Instant.nanosPerDay := by decide
  have hwindow := windowOf_previous hnow dates "Previous year" .year .year (by decide)
  rw [hspan] at hwindow
  obtain ⟨horder, hexact⟩ := Date.yearStart_year_before (Instant.isValid_date hcalendar)
    (Instant.isValid_date hcalendarBack) (one_lt_year hnow hcalendar) hordinal
  exact dates_window horder hexact id hwindow

theorem unitStart_lt (hinner : now.ns % Instant.nanosPerDay ≠ 0) {unit : SnapUnit}
    (hunit : unit ∈ [SnapUnit.day, .week, .month, .year]) : (now.unitStart unit).ns < now.ns := by
  obtain ⟨hle, -⟩ := Instant.unitStart_bounds (Instant.onCalendar_now hnow).1 unit
  obtain ⟨day, hday⟩ : ∃ day, now.unitStart unit = .ofDay day :=
    Instant.unitStart_eq_ofDay hunit
  rw [hday] at hle ⊢
  simp only [Instant.ofDay, Instant.nanosPerDay] at *
  omega

-- At every moment inside a day, each range resolves but for two: the month before has no window on
-- the 31st, and the year before has none on the last day of a leap year. The day and the week
-- before are always exact, and so is the year before where it resolves. The month before is exact
-- on the dates that lie thirty days after one of its own.
theorem quickRanges_resolve (hinner : now.ns % Instant.nanosPerDay ≠ 0) :
    (∀ range ∈ quickRanges, range.display ≠ "Previous month" → range.display ≠ "Previous year" →
      ∃ bounds, range.toCell.bounds dates now Zone.utc = .ok (some bounds)) ∧
    windowOf "Yesterday" dates now = .ok (some ⟨.ofDay (now.day - 1), .ofDay now.day⟩) ∧
    windowOf "Previous week" dates now =
      .ok (some ⟨.ofDay (Instant.weekStart now.day - 7), .ofDay (Instant.weekStart now.day)⟩) ∧
    ((∃ bounds, windowOf "Previous month" dates now = .ok (some bounds)) ↔ now.date.day ≤ 30) ∧
    (windowOf "Previous month" dates now =
        .ok (some ⟨.ofDate now.date.previousMonth, .ofDate now.date.monthStart⟩) ↔
      now.date.day ≤ 30 ∧ 31 ≤ now.date.day +
        daysInMonth now.date.previousMonth.year now.date.previousMonth.month) ∧
    ((∃ bounds, windowOf "Previous year" dates now = .ok (some bounds)) ↔
      ¬ (isLeapYear now.date.year = true ∧ now.date.month = 12 ∧ now.date.day = 31)) ∧
    (windowOf "Previous year" dates now =
        .ok (some ⟨.ofDate now.date.previousYear, .ofDate now.date.yearStart⟩) ↔
      ¬ (isLeapYear now.date.year = true ∧ now.date.month = 12 ∧ now.date.day = 31)) := by
  obtain ⟨hmonth, hmonthExact⟩ := windowOf_previous_month hnow dates
  obtain ⟨hyear, hyearExact⟩ := windowOf_previous_year hnow dates
  refine ⟨?_, windowOf_yesterday hnow dates, windowOf_previous_week hnow dates, hmonth,
    hmonthExact, hyear, hyearExact⟩
  intro range hrange hnotMonth hnotYear
  rcases quickRanges_kinds range hrange with hrolling | ⟨unit, hunit, hcurrent⟩ |
    ⟨kind, hkind, hdisplay, hprevious⟩
  · obtain ⟨first, -, hbounds⟩ := bounds_of_isRolling hnow hrolling
    exact ⟨_, hbounds⟩
  · rw [bounds_of_isCurrent hnow hcurrent, if_pos (unitStart_lt hnow hinner hunit)]
    exact ⟨_, rfl⟩
  · have hwindow : range.toCell.bounds dates now Zone.utc = windowOf range.display dates now := by
      rw [bounds_of_isPrevious hnow hprevious, hdisplay]
      exact (windowOf_previous hnow dates kind.1 kind.2.1 kind.2.2 hkind).symm
    rw [hwindow]
    simp only [previousKinds, List.mem_cons, List.not_mem_nil, or_false] at hkind
    rcases hkind with rfl | rfl | rfl | rfl
    · rw [hdisplay]
      exact ⟨_, windowOf_yesterday hnow dates⟩
    · rw [hdisplay]
      exact ⟨_, windowOf_previous_week hnow dates⟩
    · exact absurd hdisplay hnotMonth
    · exact absurd hdisplay hnotYear

end

theorem quickRanges_resolve_march :
    windowOf "Previous month" (.on ⟨2024, 3, 13⟩) ⟨1710344730000000000⟩ =
        .ok (some ⟨.ofDate ⟨2024, 2, 1⟩, .ofDate ⟨2024, 3, 1⟩⟩) ∧
      windowOf "Previous year" (.on ⟨2024, 3, 13⟩) ⟨1710344730000000000⟩ =
        .ok (some ⟨.ofDate ⟨2023, 1, 1⟩, .ofDate ⟨2024, 1, 1⟩⟩) := by
  have hnow : Instant.inYears 1970 9998 ⟨1710344730000000000⟩ := ⟨by decide, by decide⟩
  obtain ⟨-, -, -, -, hmonth, -, hyear⟩ :=
    quickRanges_resolve hnow (.on ⟨2024, 3, 13⟩) (by decide)
  exact ⟨hmonth.mpr (by decide), hyear.mpr (by decide)⟩

-- On the 31st there is no month before, on the last day of a leap year there is no year before, and
-- on the first of March the month before begins in January.
theorem quickRanges_unresolved :
    windowOf "Previous month" (.on ⟨2024, 3, 31⟩) ⟨1711886400000000000⟩ = .ok none ∧
      windowOf "Previous year" (.on ⟨2024, 12, 31⟩) ⟨1735646400000000000⟩ = .ok none ∧
      windowOf "Previous month" (.on ⟨2023, 3, 1⟩) ⟨1677672000000000000⟩ =
        .ok (some ⟨.ofDate ⟨2023, 1, 1⟩, .ofDate ⟨2023, 3, 1⟩⟩) := by
  refine ⟨?_, ?_, ?_⟩
  · rw [windowOf_previous ⟨by decide, by decide⟩ _ "Previous month" .month .month (by decide)]
    exact congrArg Except.ok (by decide)
  · rw [windowOf_previous ⟨by decide, by decide⟩ _ "Previous year" .year .year (by decide)]
    exact congrArg Except.ok (by decide)
  · rw [windowOf_previous ⟨by decide, by decide⟩ _ "Previous month" .month .month (by decide)]
    exact congrArg Except.ok (by decide)

end Presets

end TimePanel
