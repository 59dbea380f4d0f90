import TimePanel.Proofs.Fault
import TimePanel.Proofs.TimeRange.Snap
import TimePanel.Proofs.Zone.Offsets
import TimePanel.Query.TimeFilter
import TimePanel.TimeRange.Bounds

/-! Resolving a range fails only if a reader of dates does, and the windows that it leads to can be
shown on every clock. -/

namespace TimePanel

open Fault

-- Whether texts that are no dates are all that a reader refuses.
structure DateReader.FailsOnValues (dates : DateReader) : Prop where
  iso : ∀ text, OnlyOfValue (dates.iso text)
  free : ∀ text, OnlyOfValue (dates.free text)

-- The reader that takes texts that it cannot deal with for ones that are no dates.
def DateReader.guarded (dates : DateReader) : DateReader :=
  ⟨fun text => (dates.iso text).mapError refusal, fun text => (dates.free text).mapError refusal⟩
where
  refusal (fault : Fault) : Fault := if fault.isOfValue then fault else .unreadableDate

theorem DateReader.failsOnValues_guarded (dates : DateReader) : dates.guarded.FailsOnValues := by
  have hrefusal (outcome : Except Fault DateTime) :
      OnlyOfValue (outcome.mapError guarded.refusal) := by
    cases outcome with
    | ok value => exact onlyOfValue_ok value
    | error fault =>
        apply onlyOfValue_error
        unfold guarded.refusal
        split
        · assumption
        · rfl
  exact ⟨fun text => hrefusal _, fun text => hrefusal _⟩

-- The standard settings, and a reader that refuses nothing but texts that are no dates.
def Surroundings.quiet : Surroundings :=
  let env := Surroundings.atClock .default ⟨1710344730000000000⟩ "chart_00000000"
  { env with dates := env.dates.guarded }

theorem Surroundings.failsOnValues_quiet : quiet.dates.FailsOnValues :=
  DateReader.failsOnValues_guarded _

section Faults

variable (instant : Instant) (zone : Zone)

theorem Instant.onlyOfValue_universal : OnlyOfValue instant.universal :=
  onlyOfValue_elim rfl _

theorem Instant.onlyOfValue_ofDateTime (value : DateTime) : OnlyOfValue (ofDateTime value) := by
  unfold ofDateTime
  dsimp only
  split
  · exact onlyOfValue_ok _
  · exact onlyOfValue_error rfl

theorem WallTime.onlyOfValue_addDays (wall : WallTime) (days : Int) :
    OnlyOfValue (wall.addDays days) := by
  unfold addDays
  split
  · exact onlyOfValue_ok _
  · exact onlyOfValue_error rfl

theorem Zone.onlyOfValue_reading : OnlyOfValue (zone.reading instant) := by
  apply OnlyOfValue.bind instant.onlyOfValue_universal
  intro universal
  dsimp only
  split
  · exact onlyOfValue_ok _
  · exact onlyOfValue_error rfl

theorem SnapUnit.onlyOfValue_start (unit : SnapUnit) (reading : Reading) :
    OnlyOfValue (unit.start reading) := by
  cases unit with
  | week =>
      exact (WallTime.onlyOfValue_addDays _ _).bind fun wall => onlyOfValue_ok _
  | minute => exact onlyOfValue_ok _
  | hour => exact onlyOfValue_ok _
  | day => exact onlyOfValue_ok _
  | month => exact onlyOfValue_ok _
  | year => exact onlyOfValue_ok _

theorem Instant.onlyOfValue_snap (unit : SnapUnit) : OnlyOfValue (instant.snap unit zone) := by
  apply OnlyOfValue.bind (zone.onlyOfValue_reading instant)
  intro reading
  exact (unit.onlyOfValue_start reading).bind fun start => onlyOfValue_ok _

theorem Number.onlyOfValue_round (x : Binary64) : OnlyOfValue (Number.round x) := by
  cases x with
  | nan => exact onlyOfValue_error rfl
  | infinite negative => exact onlyOfValue_error rfl
  | finite negative significand exponent => exact onlyOfValue_ok _

theorem Instant.onlyOfValue_ofEpoch (n : Number) : OnlyOfValue (ofEpoch n) := by
  unfold ofEpoch
  cases n with
  | int n => exact onlyOfValue_ok _
  | float x => exact (Number.onlyOfValue_round _).map _

theorem TimeExpression.onlyOfValue_amountOf (digits : List Char) : OnlyOfValue (amountOf digits) :=
  onlyOfValue_elim rfl _

theorem TimeExpression.onlyOfValue_writtenInstant {dates : DateReader}
    (hdates : dates.FailsOnValues) (text : List Char) :
    OnlyOfValue (writtenInstant dates text zone) := by
  unfold writtenInstant
  dsimp only
  split
  · split
    · exact (Instant.onlyOfValue_ofDateTime _).map some
    · exact onlyOfValue_ok _
  · split
    · split
      · exact (Instant.onlyOfValue_ofDateTime _).map some
      · exact onlyOfValue_ok _
    · split
      · exact onlyOfValue_ok none
      · next fault hfault hnot => exact absurd (hdates.free text fault hfault) hnot
  · next fault _ hfault => exact onlyOfValue_error (hdates.iso text fault hfault)

-- Every way to write a point in time can only fail by what was written.
theorem TimeExpression.onlyOfValue_evaluate {dates : DateReader} (hdates : dates.FailsOnValues)
    (now : Instant) (expression : TimeExpression) :
    OnlyOfValue (expression.evaluate dates now zone) := by
  cases expression with
  | now => exact onlyOfValue_ok _
  | shifted later amount span snap =>
      apply (onlyOfValue_amountOf amount).bind
      intro count
      cases snap with
      | none => exact onlyOfValue_ok _
      | some unit =>
          exact (Instant.onlyOfValue_snap _ zone unit).bind fun start => onlyOfValue_ok _
  | snapped unit => exact (now.onlyOfValue_snap zone unit).map some
  | ago amount span => exact (onlyOfValue_amountOf amount).bind fun count => onlyOfValue_ok _
  | epoch digits =>
      apply (onlyOfValue_amountOf digits).bind
      intro count
      exact (Instant.onlyOfValue_ofEpoch _).bind fun instant => onlyOfValue_ok _
  | written text => exact onlyOfValue_writtenInstant zone hdates text

theorem Cell.onlyOfValue_instant? {dates : DateReader} (hdates : dates.FailsOnValues)
    (now : Instant) (cell : Cell) : OnlyOfValue (cell.instant? dates now zone) := by
  unfold Cell.instant?
  split
  · exact onlyOfValue_ok _
  · split
    · exact (Instant.onlyOfValue_ofDateTime _).map some
    · exact onlyOfValue_ok _
  · exact (Instant.onlyOfValue_ofEpoch _).map some
  · exact (Instant.onlyOfValue_ofEpoch _).map some
  · dsimp only
    split
    · exact onlyOfValue_ok none
    · exact TimeExpression.onlyOfValue_evaluate zone hdates now _
  · exact onlyOfValue_ok none

end Faults

namespace Instant

variable {instant : Instant}

theorem isRepresentable_iff :
    instant.isRepresentable = true ↔ minNs ≤ instant.ns ∧ instant.ns ≤ maxNs := by
  simp [isRepresentable]

-- A moment is on the calendar of every clock if it is at least a day away from both ends.
theorem isSome_ofEpochMicros? (h : instant.isRepresentable = true) {seconds : Int}
    (hseconds : seconds.natAbs < secondsPerDay) :
    (WallTime.ofEpochMicros? (instant.ns / 1000 + seconds * 1000000)).isSome = true := by
  obtain ⟨hmin, hmax⟩ := isRepresentable_iff.mp h
  have hday : 1 ≤ (instant.ns / 1000 + seconds * 1000000) / TimeOfDay.microsPerDay +
        Calendar.epochOrdinal ∧
      (instant.ns / 1000 + seconds * 1000000) / TimeOfDay.microsPerDay +
        Calendar.epochOrdinal ≤ Calendar.lastOrdinal := by
    simp only [minNs, maxNs, secondsPerDay, TimeOfDay.microsPerDay, Calendar.epochOrdinal,
      Calendar.lastOrdinal] at *
    omega
  rw [WallTime.ofEpochMicros?, Date.ofEpochDay?, if_pos hday]
  rfl

theorem onCalendar_of_isRepresentable (h : instant.isRepresentable = true) :
    instant.onCalendar := by
  obtain ⟨hmin, hmax⟩ := isRepresentable_iff.mp h
  simp only [onCalendar, day, nanosPerDay, minNs, maxNs, Calendar.epochOrdinal,
    Calendar.lastOrdinal] at *
  omega

theorem exists_reading (h : instant.isRepresentable = true) {zone : Zone}
    (hzone : zone.IsWithinDay) : ∃ reading, zone.reading instant = .ok reading := by
  have hcalendar := onCalendar_of_isRepresentable h
  have hsome := isSome_ofEpochMicros? h
    (hzone.offsetAt (WallTime.epochSeconds ⟨instant.date, instant.time⟩))
  obtain ⟨wall, hwall⟩ := Option.isSome_iff_exists.mp hsome
  rw [← epochMicros_universal hcalendar] at hwall
  simp only [Zone.reading, universal_eq hcalendar, bind, Except.bind, hwall]
  exact ⟨_, rfl⟩

end Instant

-- A bound that is found can be shown, and one that is given is always settled.
theorem Cell.isRepresentable_of_boundInstant {cell : Cell} {dates : DateReader} {now : Instant}
    {zone : Zone} {instant : Instant} (h : cell.boundInstant dates now zone = .ok (some instant)) :
    instant.isRepresentable = true := by
  unfold Cell.boundInstant at h
  split at h
  · split at h
    · next hshown =>
        cases h
        exact hshown
    · cases h
  · cases h
  · split at h <;> cases h

theorem Cell.exists_boundInstant {dates : DateReader} (hdates : dates.FailsOnValues)
    (now : Instant) (zone : Zone) (cell : Cell) :
    ∃ found, cell.boundInstant dates now zone = .ok found := by
  unfold Cell.boundInstant
  cases hfound : cell.instant? dates now zone with
  | error fault =>
      have hvalue := Cell.onlyOfValue_instant? zone hdates now cell fault hfound
      exact ⟨none, by simp [hvalue]⟩
  | ok found =>
      cases found with
      | none => exact ⟨none, rfl⟩
      | some instant => exact ⟨_, rfl⟩

namespace TimeBounds

-- The window between two ends, if both are there and in order.
def between? : Option Instant × Option Instant → Option TimeBounds
  | (some start, some finish) => if start.ns < finish.ns then some ⟨start, finish⟩ else none
  | _ => none

theorem between?_eq_some_iff {ends : Option Instant × Option Instant} {bounds : TimeBounds} :
    between? ends = some bounds ↔
      ends = (some bounds.start, some bounds.finish) ∧ bounds.start.ns < bounds.finish.ns := by
  constructor
  · intro h
    unfold between? at h
    split at h
    · split at h
      · next horder =>
        cases h
        exact ⟨rfl, horder⟩
      · cases h
    · cases h
  · rintro ⟨rfl, horder⟩
    exact if_pos horder

-- A window whose ends can be shown has a written form, and its filter one on every clock.
theorem exists_toCell {bounds : TimeBounds} (hstart : bounds.start.isRepresentable = true)
    (hfinish : bounds.finish.isRepresentable = true) : ∃ cell, bounds.toCell = .ok cell := by
  have hfirst := Instant.universal_eq (Instant.onCalendar_of_isRepresentable hstart)
  have hlast := Instant.universal_eq (Instant.onCalendar_of_isRepresentable hfinish)
  simp only [toCell, universalText, hfirst, hlast, bind, Except.bind, pure, Except.pure]
  exact ⟨_, rfl⟩

theorem exists_filter {bounds : TimeBounds} (hstart : bounds.start.isRepresentable = true)
    (hfinish : bounds.finish.isRepresentable = true) (column : String)
    (schema : Option ColumnDescriptor) {zone : Zone} (hzone : zone.IsWithinDay) :
    ∃ clause, bounds.filter column schema zone = .ok clause := by
  unfold filter
  dsimp only
  split
  · exact ⟨_, rfl⟩
  · obtain ⟨low, hlow⟩ := Instant.exists_reading hstart hzone
    obtain ⟨high, hhigh⟩ := Instant.exists_reading hfinish hzone
    simp only [hlow, hhigh, bind, Except.bind]
    exact ⟨_, rfl⟩

end TimeBounds

namespace RangeDescriptor

-- Whether the range is a window of time on the clock of a zone.
def ResolvesIn (descriptor : RangeDescriptor) (dates : DateReader) (now : Instant)
    (zone : Zone) : Prop :=
  ∃ bounds, descriptor.bounds dates now zone = .ok (some bounds)

variable {descriptor : RangeDescriptor} {dates : DateReader} {now : Instant} {zone : Zone}

theorem bounds_of_isDisabled (h : descriptor.isDisabled = true) :
    descriptor.bounds dates now zone = .ok none := by
  simp only [bounds, h, if_true]
  rfl

-- An enabled range is the window between its ends.
theorem bounds_of_not_isDisabled (h : descriptor.isDisabled = false) :
    descriptor.bounds dates now zone =
      (descriptor.endpoints dates now zone).map TimeBounds.between? := by
  simp only [bounds, h, Bool.false_eq_true, if_false]
  cases descriptor.endpoints dates now zone with
  | error fault => rfl
  | ok ends =>
      obtain ⟨start, finish⟩ := ends
      cases start with
      | none => rfl
      | some start =>
          cases finish with
          | none => rfl
          | some finish => rfl

theorem bounds_eq_some_iff {bounds : TimeBounds} :
    descriptor.bounds dates now zone = .ok (some bounds) ↔
      descriptor.isDisabled = false ∧
        descriptor.endpoints dates now zone = .ok (some bounds.start, some bounds.finish) ∧
        bounds.start.ns < bounds.finish.ns := by
  cases hdisabled : descriptor.isDisabled with
  | true => simp [bounds_of_isDisabled hdisabled]
  | false =>
      rw [bounds_of_not_isDisabled hdisabled, map_eq_ok_iff]
      simp only [TimeBounds.between?_eq_some_iff, true_and]
      constructor
      · rintro ⟨ends, hends, rfl, horder⟩
        exact ⟨hends, horder⟩
      · rintro ⟨hends, horder⟩
        exact ⟨_, hends, rfl, horder⟩

-- A window is in order, and both of its ends can be shown.
theorem shown_of_bounds {bounds : TimeBounds}
    (h : descriptor.bounds dates now zone = .ok (some bounds)) :
    bounds.start.ns < bounds.finish.ns ∧ bounds.start.isRepresentable = true ∧
      bounds.finish.isRepresentable = true := by
  obtain ⟨-, hends, horder⟩ := bounds_eq_some_iff.mp h
  obtain ⟨start, hstart, hends⟩ := bind_eq_ok_iff.mp hends
  obtain ⟨finish, hfinish, hends⟩ := bind_eq_ok_iff.mp hends
  obtain ⟨rfl, rfl⟩ := Prod.mk.inj (pure_eq_ok_iff.mp hends)
  exact ⟨horder, Cell.isRepresentable_of_boundInstant hstart,
    Cell.isRepresentable_of_boundInstant hfinish⟩

-- Both ends are settled by a reader that fails on values only.
theorem exists_endpoints (descriptor : RangeDescriptor) (hdates : dates.FailsOnValues)
    (now : Instant) (zone : Zone) : ∃ ends, descriptor.endpoints dates now zone = .ok ends := by
  obtain ⟨start, hstart⟩ := Cell.exists_boundInstant hdates now zone descriptor.start.toCell
  obtain ⟨finish, hfinish⟩ :=
    Cell.exists_boundInstant hdates now zone descriptor.effectiveFinish.toCell
  exact ⟨(start, finish), by rw [endpoints, hstart, hfinish]; rfl⟩

theorem exists_bounds (descriptor : RangeDescriptor) (hdates : dates.FailsOnValues)
    (now : Instant) (zone : Zone) : ∃ found, descriptor.bounds dates now zone = .ok found := by
  cases hdisabled : descriptor.isDisabled with
  | true => exact ⟨none, bounds_of_isDisabled hdisabled⟩
  | false =>
      obtain ⟨ends, hends⟩ := descriptor.exists_endpoints hdates now zone
      refine ⟨TimeBounds.between? ends, ?_⟩
      rw [bounds_of_not_isDisabled hdisabled, hends]
      rfl

end RangeDescriptor

namespace Cell

theorem shown_of_bounds {range : Cell} {dates : DateReader} {now : Instant} {zone : Zone}
    {bounds : TimeBounds} (h : range.bounds dates now zone = .ok (some bounds)) :
    bounds.start.ns < bounds.finish.ns ∧ bounds.start.isRepresentable = true ∧
      bounds.finish.isRepresentable = true := by
  unfold Cell.bounds at h
  split at h
  · exact RangeDescriptor.shown_of_bounds h
  · cases h

theorem exists_bounds (range : Cell) {dates : DateReader} (hdates : dates.FailsOnValues)
    (now : Instant) (zone : Zone) :
    ∃ found, range.bounds dates now zone = .ok found ∧
      ∀ bounds, found = some bounds → bounds.start.ns < bounds.finish.ns ∧
        bounds.start.isRepresentable = true ∧ bounds.finish.isRepresentable = true := by
  have hsettled : ∃ found, range.bounds dates now zone = .ok found := by
    unfold Cell.bounds
    cases RangeDescriptor.ofCell range with
    | none => exact ⟨none, rfl⟩
    | some descriptor => exact descriptor.exists_bounds hdates now zone
  obtain ⟨found, hfound⟩ := hsettled
  refine ⟨found, hfound, ?_⟩
  rintro bounds rfl
  exact shown_of_bounds hfound

end Cell

namespace TimeBounds

-- A window in order whose ends can be shown. It has a written form and, on every clock that is less
-- than a day from universal time, a filter.
structure IsShown (bounds : TimeBounds) : Prop where
  ordered : bounds.start.ns < bounds.finish.ns
  start : bounds.start.isRepresentable = true
  finish : bounds.finish.isRepresentable = true
  written : ∃ written, bounds.toCell = .ok written
  filter : ∀ (column : String) (schema : Option ColumnDescriptor) (zone : Zone),
    zone.IsWithinDay → ∃ clause, bounds.filter column schema zone = .ok clause

end TimeBounds

theorem RangeDescriptor.isShown_of_bounds {descriptor : RangeDescriptor} {dates : DateReader}
    {now : Instant} {zone : Zone} {bounds : TimeBounds}
    (h : descriptor.bounds dates now zone = .ok (some bounds)) : bounds.IsShown := by
  obtain ⟨hordered, hstart, hfinish⟩ := shown_of_bounds h
  refine ⟨hordered, hstart, hfinish, TimeBounds.exists_toCell hstart hfinish, ?_⟩
  intro column schema target htarget
  exact TimeBounds.exists_filter hstart hfinish column schema htarget

namespace RangeInput

-- What a mapping says about its shape.
def shape? (entries : List (Cell × Cell)) : Option Cell :=
  (fieldsOf entries).lookup "kind" <|> (fieldsOf entries).lookup "type"

-- A mapping that is read as a range, as it gives one of the two shapes or none at all, and that has
-- a key that is no text.
def HasUnnamedField : RangeInput → Prop
  | .value _ => False
  | .mapping entries =>
      (shape? entries = none ∨ shape? entries = some (.text "relative") ∨
        shape? entries = some (.text "absolute")) ∧
      ∃ entry ∈ entries, name? entry.1 = none

theorem isSome_readerOf_iff (entries : List (Cell × Cell)) :
    (RangeDescriptor.readerOf (fieldsOf entries)).isSome = true ↔
      shape? entries = none ∨ shape? entries = some (.text "relative") ∨
        shape? entries = some (.text "absolute") := by
  rw [RangeDescriptor.readerOf, ← shape?]
  split
  · next h => simp [h]
  · next h => simp [h]
  · next shape hrelative habsolute h =>
      rw [h]
      simp only [Option.isSome_none, Bool.false_eq_true, reduceCtorEq, false_or, Option.some.injEq,
        false_iff, not_or]
      exact ⟨hrelative, habsolute⟩
  · next h => simp [h]

-- Only a mapping with a field that has no name cannot be read.
theorem descriptor_eq_error_iff {input : RangeInput} {fault : Fault} :
    input.descriptor = .error fault ↔ input.HasUnnamedField ∧ fault = .unsuitableValue := by
  cases input with
  | value cell => exact ⟨nofun, fun h => h.1.elim⟩
  | mapping entries =>
      have hnames : (entries.all fun entry => (name? entry.1).isSome) = false ↔
          ∃ entry ∈ entries, name? entry.1 = none := by
        simp [List.all_eq_false]
      rw [HasUnnamedField, ← isSome_readerOf_iff, ← hnames, descriptor]
      cases RangeDescriptor.readerOf (fieldsOf entries) with
      | none => simp
      | some read =>
          cases entries.all fun entry => (name? entry.1).isSome with
          | true => simp
          | false => simp [eq_comm]

-- However far out now lies, resolving comes to an answer, unless a field of the range has no name.
-- A window that it finds can be shown.
theorem bounds_eq_error_iff (input : RangeInput) {dates : DateReader} (hdates : dates.FailsOnValues)
    (now : Instant) (zone : Zone) :
    (∀ fault, input.bounds dates now zone = .error fault ↔
      input.HasUnnamedField ∧ fault = .unsuitableValue) ∧
      ∀ bounds, input.bounds dates now zone = .ok (some bounds) → bounds.IsShown := by
  cases hdescriptor : input.descriptor with
  | error fault =>
      have hbounds : input.bounds dates now zone = .error fault := by
        rw [bounds, hdescriptor]
        rfl
      simp only [← descriptor_eq_error_iff, hdescriptor, hbounds, Except.error.injEq, implies_true,
        reduceCtorEq, false_implies, and_self]
  | ok found =>
      have hsettled : ∃ window, input.bounds dates now zone = .ok window ∧
          ∀ bounds, window = some bounds → bounds.IsShown := by
        cases found with
        | none =>
            refine ⟨none, ?_, nofun⟩
            rw [bounds, hdescriptor]
            rfl
        | some described =>
            obtain ⟨window, hwindow⟩ := described.exists_bounds hdates now zone
            refine ⟨window, ?_, ?_⟩
            · rw [bounds, hdescriptor]
              exact hwindow
            · rintro bounds rfl
              exact RangeDescriptor.isShown_of_bounds hwindow
      obtain ⟨window, hwindow, hshown⟩ := hsettled
      rw [hwindow]
      refine ⟨fun fault => ?_, fun bounds hbounds => hshown bounds (Except.ok.inj hbounds)⟩
      rw [← descriptor_eq_error_iff, hdescriptor]
      exact ⟨nofun, nofun⟩

-- The last two days that clocks in all zones can show, read freely and in the international form.
def lastDays : RangeInput :=
  .mapping
    [(.text "kind", .text "absolute"), (.text "from", .text "29 December 9999"),
     (.text "to", .text "9999-12-30T23:59:59.999999Z")]

-- There the guarded reader finds what the reader itself finds, and the end of the window is still
-- to be seen on a clock that is one second less than a day ahead, as it is on that of Apia.
theorem bounds_eq_error_iff_lastDays :
    (∀ fault, lastDays.bounds (DateReader.on ⟨2024, 3, 13⟩).guarded ⟨10 ^ 30⟩
      (.fixed "west" (-43200)) ≠ .error fault) ∧
    ∃ bounds written ahead apia clause,
      lastDays.bounds (DateReader.on ⟨2024, 3, 13⟩).guarded ⟨10 ^ 30⟩ (.fixed "west" (-43200)) =
          .ok (some bounds) ∧
        lastDays.bounds (.on ⟨2024, 3, 13⟩) ⟨10 ^ 30⟩ (.fixed "west" (-43200)) =
          .ok (some bounds) ∧
        bounds.finish.ns = Instant.maxNs ∧ bounds.toCell = .ok written ∧
        bounds.filter "created" none (.fixed "east" 86399) = .ok ahead ∧
        Zone.named? "Pacific/Apia" = some apia ∧
        bounds.filter "created" none apia = .ok clause := by
  obtain ⟨hfails, hshown⟩ := lastDays.bounds_eq_error_iff
    (DateReader.on ⟨2024, 3, 13⟩).failsOnValues_guarded ⟨10 ^ 30⟩ (.fixed "west" (-43200))
  have hnamed : ¬ lastDays.HasUnnamedField := by
    rintro ⟨-, entry, hentry, hname⟩
    simp only [List.mem_cons, List.not_mem_nil, or_false] at hentry
    rcases hentry with rfl | rfl | rfl <;> cases hname
  have hwindow : lastDays.bounds (DateReader.on ⟨2024, 3, 13⟩).guarded ⟨10 ^ 30⟩
      (.fixed "west" (-43200)) =
        .ok (some ⟨⟨253402084800000000000⟩, ⟨253402214399999999000⟩⟩) := by
    decide +kernel
  obtain ⟨-, -, -, ⟨written, hwritten⟩, hfilter⟩ := hshown _ hwindow
  obtain ⟨ahead, hahead⟩ := hfilter "created" none (.fixed "east" 86399)
    (Zone.isWithinDay_fixed (by decide) _)
  obtain ⟨apia, hapia⟩ := Option.isSome_iff_exists.mp
    (show (Zone.named? "Pacific/Apia").isSome = true by decide +kernel)
  obtain ⟨clause, hclause⟩ := hfilter "created" none apia (Zone.isWithinDay_of_named hapia)
  exact ⟨fun fault h => hnamed ((hfails fault).mp h).1, _, written, ahead, apia, clause, hwindow,
    by decide +kernel, rfl, hwritten, hahead, hapia, hclause⟩

-- A mapping with a number for its key cannot be resolved, though the reader of dates has no part in
-- it.
theorem bounds_of_unnamed :
    Surroundings.quiet.dates.FailsOnValues ∧
      (RangeInput.mapping [(.int 1, .int 2)]).bounds Surroundings.quiet.dates
        Surroundings.quiet.clock Zone.utc = .error .unsuitableValue :=
  ⟨Surroundings.failsOnValues_quiet, rfl⟩

end RangeInput

end TimePanel
