import TimePanel.Proofs.Query.Interpolation
import TimePanel.Proofs.TimeRange.Bounds

/-! Putting values into a query comes to a result, unless a window has to be shared out among no
points at all. -/

namespace TimePanel

-- Whether texts that are no dates are all that the reader of dates refuses, and the clocks of all
-- zones that are known are less than a day from universal time.
structure Surroundings.IsRegular (env : Surroundings) : Prop where
  dates : env.dates.FailsOnValues
  zones : ∀ name zone, env.zone? name = some zone → zone.IsWithinDay

theorem Surroundings.IsRegular.zoneNamed {env : Surroundings} (h : env.IsRegular) (name : String) :
    (env.zoneNamed name).IsWithinDay := by
  unfold Surroundings.zoneNamed
  cases hzone : env.zoneNamed? name with
  | none => exact Zone.isWithinDay_fixed (by decide) "UTC"
  | some zone => exact h.zones _ zone hzone

namespace Checked

variable {α β : Type}

theorem apply_eq_valid {f : Checked (α → β)} {value : Checked α} {result : β}
    (h : f.apply value = .valid result) :
    ∃ g a, f = .valid g ∧ value = .valid a ∧ g a = result := by
  cases f with
  | invalid problems => cases value <;> cases h
  | valid g =>
      cases value with
      | invalid problems => cases h
      | valid a =>
          cases h
          exact ⟨g, a, rfl, rfl, rfl⟩

theorem within_eq_valid {step : Step} {value : Checked α} {result : α}
    (h : value.within step = .valid result) : value = .valid result := by
  cases value with
  | invalid problems => cases h
  | valid a => exact h

end Checked

namespace Schema

-- A field that is valid was checked, or is missing and has its default.
theorem fieldOr_eq_valid {α : Type} {default result : α} {spellings : List String}
    {check : Cell → Checked α} {fields : List (String × Cell)}
    (h : fieldOr default spellings check fields = .valid result) :
    result = default ∨ ∃ value, check value = .valid result := by
  unfold fieldOr at h
  split at h
  · next name value _ => exact .inr ⟨value, Checked.within_eq_valid h⟩
  · cases h
    exact .inl rfl

theorem positiveInteger_pos {cell : Cell} {n : Int} (h : positiveInteger cell = .valid n) :
    0 < n := by
  unfold positiveInteger at h
  cases hinteger : integer cell with
  | invalid problems =>
      rw [hinteger] at h
      cases h
  | valid m =>
      simp only [hinteger, Checked.bind] at h
      split at h
      · next hpositive =>
        cases h
        exact hpositive
      · cases h

end Schema

namespace QueryContext

variable {settings : Settings} {context : QueryContext}

theorem maxPoints_of_ofFields {fields : List (String × Cell)}
    (h : ofFields settings fields = .valid context) :
    context.maxPoints = settings.maxDataPoints ∨ 0 < context.maxPoints := by
  obtain ⟨_, points, hzone, hpoints, rfl⟩ := Checked.apply_eq_valid h
  obtain ⟨_, zone, hrange, -, rfl⟩ := Checked.apply_eq_valid hzone
  obtain ⟨_, range, hcolumns, -, rfl⟩ := Checked.apply_eq_valid hrange
  obtain ⟨_, columns, hschema, -, rfl⟩ := Checked.apply_eq_valid hcolumns
  obtain ⟨_, schema, hcolumn, -, rfl⟩ := Checked.apply_eq_valid hschema
  obtain ⟨_, column, hmake, -, rfl⟩ := Checked.apply_eq_valid hcolumn
  cases hmake
  obtain hdefault | ⟨value, hvalue⟩ := Schema.fieldOr_eq_valid hpoints
  · exact .inl hdefault
  · exact .inr (Schema.positiveInteger_pos hvalue)

-- A context that was not checked before has points, or as many as the settings say.
theorem maxPoints_of_ofCell {given : Cell} (h : ofCell settings given = .ok context)
    (hgiven : ∀ fields, given ≠ .record .interpolationContext fields) :
    context.maxPoints = settings.maxDataPoints ∨ 0 < context.maxPoints := by
  unfold ofCell at h
  extract_lets checked at h
  have hvalid : checked = .valid context := by
    cases hknown : checked with
    | valid known =>
        rw [hknown] at h
        cases h
        rfl
    | invalid problems =>
        rw [hknown] at h
        cases h
  unfold checked at hvalid
  split at hvalid
  · cases hvalid
    exact .inl rfl
  · next fields => exact absurd rfl (hgiven fields)
  · cases hfields : Schema.fieldsOf .library .interpolationContext given with
    | invalid problems =>
        rw [hfields] at hvalid
        cases hvalid
    | valid fields =>
        rw [hfields] at hvalid
        exact maxPoints_of_ofFields hvalid

end QueryContext

namespace Interpolation

open TimeMacro

variable {env : Surroundings} {context : QueryContext} {query : List Char} {now : Instant}
  {window : Option TimeBounds} {fault : Fault}

theorem intervalFor_eq_error_iff :
    intervalFor env context window = .error fault ↔
      fault = .divisionByZero ∧ context.maxPoints = 0 ∧ window.isSome = true := by
  cases window with
  | none => simp [intervalFor]
  | some bounds =>
      by_cases hpoints : context.maxPoints = 0
      · simp [intervalFor, TimeBounds.interval, hpoints, eq_comm]
      · simp [intervalFor, TimeBounds.interval, hpoints]

theorem placeInterval_eq_error_iff {interval : Except Fault Int} {draft : Draft} :
    placeInterval interval draft = .error fault ↔
      TimeMacro.interval.standsIn draft.text = true ∧ interval = .error fault := by
  unfold placeInterval
  by_cases hstands : TimeMacro.interval.standsIn draft.text = true
  · cases interval with
    | error other => simp [hstands, bind, Except.bind]
    | ok seconds => simp [hstands, bind, Except.bind, pure, Except.pure]
  · simp [hstands, pure, Except.pure]

theorem exists_windowFor (henv : env.IsRegular) (context : QueryContext) (now : Instant)
    (text : List Char) :
    ∃ window, windowFor env context now text = .ok window ∧
      ∀ bounds, window = some bounds →
        bounds.start.isRepresentable = true ∧ bounds.finish.isRepresentable = true := by
  unfold windowFor
  split
  · obtain ⟨window, hwindow, hall⟩ :=
      context.timeRange.exists_bounds henv.dates now (zoneOf env context)
    exact ⟨window, hwindow, fun bounds hbounds => (hall bounds hbounds).2⟩
  · exact ⟨none, rfl, by simp⟩

theorem exists_clauseFor (henv : env.IsRegular) (context : QueryContext) (column : String)
    (hshown : ∀ bounds, window = some bounds →
      bounds.start.isRepresentable = true ∧ bounds.finish.isRepresentable = true) :
    ∃ found, clauseFor env context column window = .ok found := by
  cases window with
  | none => exact ⟨none, rfl⟩
  | some bounds =>
      obtain ⟨hstart, hfinish⟩ := hshown bounds rfl
      obtain ⟨clause, hclause⟩ := TimeBounds.exists_filter hstart hfinish column
        context.timeColumnWithSchema.2 (henv.zoneNamed context.timeZone)
      exact ⟨some clause, Fault.map_eq_ok_iff.mpr ⟨clause, hclause, rfl⟩⟩

theorem exists_placeFilter {clause : Except Fault (Option String)} {found : Option String}
    (h : clause = .ok found) (draft : Draft) :
    ∃ filtered, placeFilter clause draft = .ok filtered := by
  unfold placeFilter
  split
  · exact ⟨_, Fault.bind_eq_ok_iff.mpr ⟨found, h, rfl⟩⟩
  · exact ⟨draft, rfl⟩

-- An interval that is asked for once the filter is placed needs the range from the start: it stood
-- there before, or came in with the filter.
theorem needsRange_of_interval {clause : Except Fault (Option String)} {draft filtered : Draft}
    (h : placeFilter clause draft = .ok filtered)
    (hinterval : TimeMacro.interval.standsIn filtered.text = true) :
    needsRange draft.text = true := by
  rcases placeFilter_eq_ok h with ⟨-, rfl⟩ | ⟨hfilter, -⟩
  · simp [needsRange, hinterval]
  · simp [needsRange, hfilter]

theorem windowFor_eq_some_iff {text : List Char} (hneeds : needsRange text = true)
    {bounds : TimeBounds} :
    windowFor env context now text = .ok (some bounds) ↔
      context.timeRange.bounds env.dates now (zoneOf env context) = .ok (some bounds) := by
  unfold windowFor
  by_cases hnull : context.timeRange.isNull = true
  · have hrange : context.timeRange = .null := by
      cases hcell : context.timeRange <;> simp_all [Cell.isNull]
    simp [hrange, Cell.isNull, Cell.bounds, RangeDescriptor.ofCell]
  · simp [hneeds, hnull]

-- What is left to do once the interval is placed.
def finish (context : QueryContext) (query : List Char) (window : Option TimeBounds)
    (spaced : Draft) : Interpolation :=
  let draft := placeEnds (endsFor context (columnName context query) window) spaced
  ⟨String.ofList draft.text, anyIn (Sanitizer.repair query), draft.values, draft.errors⟩

-- With a window and a filter that are settled, a run comes down to its interval.
theorem ofContext_eq {filtered : Draft}
    (hwindow : windowFor env context now (columnDraft env context query).text = .ok window)
    (hfiltered : placeFilter (clauseFor env context (columnName context query) window)
      (columnDraft env context query) = .ok filtered) :
    ofContext env context query now =
      (placeInterval (intervalFor env context window) filtered >>= fun spaced =>
        pure (finish context query window spaced)) :=
  (Fault.bind_of_eq_ok hwindow _).trans (Fault.bind_of_eq_ok hfiltered _)

-- Whether a query asks for the width of buckets when its range is a window, but none of the points
-- that the window would be shared out among is allowed.
structure DividesByZero (env : Surroundings) (context : QueryContext) (query : List Char)
    (now : Instant) : Prop where
  maxPoints : context.maxPoints = 0
  asked : ∃ bounds filtered,
    context.timeRange.bounds env.dates now (zoneOf env context) = .ok (some bounds) ∧
    placeFilter (clauseFor env context (columnName context query) (some bounds))
      (columnDraft env context query) = .ok filtered ∧
    TimeMacro.interval.standsIn filtered.text = true

theorem ofContext_eq_error_iff (henv : env.IsRegular) :
    ofContext env context query now = .error fault ↔
      fault = .divisionByZero ∧ DividesByZero env context query now := by
  obtain ⟨window, hwindow, hshown⟩ :=
    exists_windowFor henv context now (columnDraft env context query).text
  obtain ⟨found, hfound⟩ := exists_clauseFor henv context (columnName context query) hshown
  obtain ⟨filtered, hfiltered⟩ := exists_placeFilter hfound (columnDraft env context query)
  rw [ofContext_eq hwindow hfiltered, Fault.bind_pure_eq_error_iff, placeInterval_eq_error_iff,
    intervalFor_eq_error_iff]
  constructor
  · rintro ⟨hinterval, hfault, hpoints, hsome⟩
    obtain ⟨bounds, rfl⟩ := Option.isSome_iff_exists.mp hsome
    have hneeds := needsRange_of_interval hfiltered hinterval
    exact ⟨hfault, hpoints, bounds, filtered, (windowFor_eq_some_iff hneeds).mp hwindow, hfiltered,
      hinterval⟩
  · rintro ⟨hfault, hpoints, bounds, other, hbounds, hother, hinterval⟩
    have hneeds := needsRange_of_interval hother hinterval
    rw [← windowFor_eq_some_iff hneeds, hwindow] at hbounds
    cases hbounds
    rw [hfiltered] at hother
    cases hother
    exact ⟨hinterval, hfault, hpoints, rfl⟩

theorem inContext_eq_error_iff (henv : env.IsRegular) {given : Cell} :
    inContext env given context now = .error fault ↔
      fault = .divisionByZero ∧ ∃ query, given = .text query ∧ query ≠ "" ∧
        DividesByZero env context query.toList now := by
  unfold inContext
  split
  · next query =>
    by_cases hempty : query = ""
    · simp [hempty]
    · simp [hempty, ofContext_eq_error_iff henv]
  · next hquery => simpa using fun _ query heq _ => absurd heq (hquery query)

-- Whatever is given as a query and as its context, there is a result, in which problems are listed.
-- The one exception is a context without any points, in which a window is to be divided. Where the
-- settings allow points, only a context that passes as checked before can be such.
theorem ofQuery_fails_iff (henv : env.IsRegular) (given context : Cell) (now : Instant) :
    (∀ fault, ofQuery env given context now = .error fault ↔
      fault = .divisionByZero ∧ ∃ query known, given = .text query ∧ query ≠ "" ∧
        QueryContext.ofCell env.settings context = .ok known ∧
        DividesByZero env known query.toList now) ∧
    (env.settings.maxDataPoints ≠ 0 →
      (∀ fields, context ≠ .record .interpolationContext fields) →
      ∃ result, ofQuery env given context now = .ok result) := by
  have hexact (fault : Fault) : ofQuery env given context now = .error fault ↔
      fault = .divisionByZero ∧ ∃ query known, given = .text query ∧ query ≠ "" ∧
        QueryContext.ofCell env.settings context = .ok known ∧
        DividesByZero env known query.toList now := by
    unfold ofQuery
    cases hknown : QueryContext.ofCell env.settings context with
    | error problems => simp
    | ok known =>
        simpa using inContext_eq_error_iff henv
  refine ⟨hexact, ?_⟩
  intro hpoints hcontext
  cases hresult : ofQuery env given context now with
  | ok result => exact ⟨result, rfl⟩
  | error fault =>
      obtain ⟨-, query, known, -, -, hknown, hdivides⟩ := (hexact fault).mp hresult
      rcases QueryContext.maxPoints_of_ofCell hknown hcontext with hdefault | hpositive
      · exact absurd (hdefault.symm.trans hdivides.maxPoints) hpoints
      · exact absurd hdivides.maxPoints hpositive.ne'

-- Surroundings with a maximum of points, and a reader that takes what it cannot deal with for no
-- dates.
def withPoints (maxPoints : Int) : Surroundings :=
  let env := Surroundings.atClock { Settings.default with maxDataPoints := maxPoints }
    ⟨1710344730000000000⟩ "chart_00000000"
  { env with dates := env.dates.guarded }

theorem isRegular_withPoints (maxPoints : Int) : (withPoints maxPoints).IsRegular where
  dates := DateReader.failsOnValues_guarded _
  zones _ _ := Zone.isWithinDay_of_named

-- The hour before now.
def lastHour : Cell :=
  .object
    [("time_range", .object
      [("kind", .text "relative"), ("from", .text "now-1h"), ("to", .text "now")])]

theorem divisionByZero_lastHour :
    ofQuery (withPoints 0) (.text "SELECT $__interval") lastHour (withPoints 0).clock =
      .error .divisionByZero := by
  apply Fault.eq_error_of_map (f := (·.query))
  decide +kernel

theorem ofQuery_fails_iff_lastHour :
    (∃ result, ofQuery (withPoints 1000) (.text "SELECT $__interval") lastHour
      (withPoints 1000).clock = .ok result) ∧
    ∃ known, QueryContext.ofCell (withPoints 0).settings lastHour = .ok known ∧
      DividesByZero (withPoints 0) known "SELECT $__interval".toList (withPoints 0).clock := by
  obtain ⟨-, hpoints⟩ := ofQuery_fails_iff (isRegular_withPoints 1000)
    (.text "SELECT $__interval") lastHour (withPoints 1000).clock
  obtain ⟨hexact, -⟩ := ofQuery_fails_iff (isRegular_withPoints 0)
    (.text "SELECT $__interval") lastHour (withPoints 0).clock
  obtain ⟨-, query, known, hquery, -, hknown, hdivides⟩ := (hexact _).mp divisionByZero_lastHour
  cases hquery
  exact ⟨hpoints (by decide) (by simp [lastHour]), known, hknown, hdivides⟩

theorem settings_withPoints_zero :
    Settings.ofEntries [("MAX_DATA_POINTS", "0")] = .valid (withPoints 0).settings := by
  have hpoints : Settings.entry? [("MAX_DATA_POINTS", "0")] "max_data_points" = some "0" := by
    decide +kernel
  have hothers : ∀ name ∈ ["default_time_zone", "fallback_interval_seconds", "sample_size",
      "date_ratio_threshold", "api_port", "log_level"],
      Settings.entry? [("MAX_DATA_POINTS", "0")] name = none := by
    decide +kernel
  have hzero : Schema.integerOfText? "0" = some 0 := by decide +kernel
  simp only [List.forall_mem_cons] at hothers
  simp [Settings.ofEntries, Settings.setting, hpoints, hothers, Schema.integer, hzero,
    Checked.ofOption, Checked.within, Checked.apply, withPoints, Surroundings.atClock]

-- Settings may ask for no points. With them every other condition is met, and there is no result.
theorem no_result_of_no_points :
    ∃ env, Settings.ofEntries [("MAX_DATA_POINTS", "0")] = .valid env.settings ∧ env.IsRegular ∧
      ¬ ∃ result, ofQuery env (.text "SELECT $__interval") lastHour env.clock = .ok result := by
  refine ⟨withPoints 0, settings_withPoints_zero, isRegular_withPoints 0, ?_⟩
  rw [divisionByZero_lastHour]
  simp

end Interpolation

end TimePanel
