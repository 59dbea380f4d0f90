import TimePanel.Proofs.Query.Interpolation
import TimePanel.Proofs.Query.Validation
import TimePanel.Query.Preparation

/-! What a successful preparation says about the range behind the filter. -/

namespace TimePanel

namespace PreparedQuery

open Interpolation

variable {env : Surroundings} {context : QueryContext} {query : String} {now : Instant}

-- The filter of a query without errors is replaced by the clause that the range gives in the zone
-- of the context, if it gives any there.
theorem timeFilter_of_errors_eq_nil {result : Interpolation}
    (h : inContext env (.text query) context now = .ok result) (herrors : result.errors = [])
    (hfilter : TimeMacro.filter.occursIn query.toList = true)
    (hnull : context.timeRange.isNull = false) :
    ∃ window found,
      context.timeRange.bounds env.dates now (zoneOf env context) = .ok window ∧
      clauseFor env context (columnName context query.toList) window = .ok found ∧
      result.interpolated.timeFilter = some (found.getD "1=1") := by
  have hempty : query.isEmpty = false := by
    rw [← Bool.not_eq_true]
    intro hempty
    rw [String.isEmpty_iff.mp hempty] at hfilter
    exact absurd hfilter (by decide)
  simp only [inContext, hempty] at h
  obtain ⟨window, filtered, spaced, hwindow, hfiltered, hspaced, -, hvalues, hresult⟩ :=
    ofContext_eq_ok h
  obtain ⟨htimeFilter, hkept⟩ := placeInterval_keeps hspaced
  -- No error means that the query shows no misuse, so its filter is still there.
  have hproblems : Sanitizer.problems query.toList = [] := by
    have hfirst : filtered.errors = [] := by
      rw [hresult, placeEnds_errors, hkept] at herrors
      exact (List.append_eq_nil_iff.mp herrors).1
    rw [placeFilter_errors hfiltered, columnDraft, placeColumn_errors] at hfirst
    exact (List.append_eq_nil_iff.mp hfirst).1
  have hstands : TimeMacro.filter.standsIn (columnDraft env context query.toList).text = true := by
    apply standsIn_placeColumn (by decide)
    rw [firstDraft, Sanitizer.repair_of_problems_eq_nil hproblems]
    exact TimeMacro.standsIn_of_occursIn hfilter
  have hneeds : needsRange (columnDraft env context query.toList).text = true := by
    simp [needsRange, hstands]
  rcases placeFilter_eq_ok hfiltered with ⟨habsent, -⟩ | ⟨-, found, hfound, rfl⟩
  · rw [hstands] at habsent
    cases habsent
  · refine ⟨window, found, ?_, hfound, ?_⟩
    · simpa [windowFor, hneeds, hnull] using hwindow
    · rw [hvalues, placeEnds_timeFilter, htimeFilter, withClause]

theorem exists_of_isSuccess {given : Cell} {blocking : Bool} {prepared : PreparedQuery}
    (hcontext : QueryContext.ofCell env.settings given = .ok context)
    (h : ofQuery env (.text query) given now blocking = .ok prepared)
    (hsuccess : prepared.isSuccess = true) :
    QueryValidation.errors env (.text query) context.timeColumnWithSchema.1 context.timeRange now =
        .ok [] ∧
      ∃ result, inContext env (.text query) context now = .ok result ∧ result.errors = [] ∧
        prepared.interpolation = some result := by
  simp only [ofQuery, hcontext] at h
  obtain ⟨problems, hproblems, h⟩ := Fault.bind_eq_ok_iff.mp h
  split at h
  · obtain rfl := Fault.pure_eq_ok_iff.mp h
    simp [isSuccess, isBlocked] at hsuccess
  · obtain ⟨result, hresult, h⟩ := Fault.bind_eq_ok_iff.mp h
    obtain rfl := Fault.pure_eq_ok_iff.mp h
    simp only [isSuccess, isBlocked, errors, interpolationErrors, Option.isNone_some,
      Bool.not_false,
      Bool.true_and, Option.elim_some, List.isEmpty_iff, List.append_eq_nil_iff] at hsuccess
    exact ⟨hsuccess.1 ▸ hproblems, result, hresult, hsuccess.2, rfl⟩

-- A query that is prepared without errors had its range looked at in the default zone, and resolved
-- in the zone of its context. Its filter bounds the time column exactly if the range resolves in
-- that zone too, and lets everything through otherwise.
theorem filter_bounds_iff_resolves {given : Cell} {blocking : Bool} {prepared : PreparedQuery}
    (hcontext : QueryContext.ofCell env.settings given = .ok context)
    (hprepared : ofQuery env (.text query) given now blocking = .ok prepared)
    (hsuccess : prepared.isSuccess = true)
    (hfilter : TimeMacro.filter.occursIn query.toList = true) :
    ∃ descriptor result clause,
      RangeDescriptor.ofCell context.timeRange = some descriptor ∧
      descriptor.ResolvesIn env.dates now (env.zoneNamed "") ∧
      prepared.interpolation = some result ∧ result.interpolated.timeFilter = some clause ∧
      ((∃ low high,
          clause = TimeBounds.condition (columnName context query.toList) low high) ↔
        descriptor.ResolvesIn env.dates now (env.zoneNamed context.timeZone)) ∧
      (clause = "1=1" ↔
        ¬ descriptor.ResolvesIn env.dates now (env.zoneNamed context.timeZone)) ∧
      ∀ bounds,
        descriptor.bounds env.dates now (env.zoneNamed context.timeZone) = .ok (some bounds) →
        bounds.filter (columnName context query.toList) context.timeColumnWithSchema.2
          (env.zoneNamed context.timeZone) = .ok clause := by
  obtain ⟨hvalid, result, hresult, herrors, hinterpolation⟩ :=
    exists_of_isSuccess hcontext hprepared hsuccess
  obtain ⟨hnull, descriptor, hdescriptor, hdefault⟩ :=
    QueryValidation.resolvesIn_of_errors hvalid hfilter
  obtain ⟨window, found, hwindow, hfound, hclause⟩ :=
    timeFilter_of_errors_eq_nil hresult herrors hfilter hnull
  simp only [Cell.bounds, hdescriptor, zoneOf] at hwindow
  refine ⟨descriptor, result, _, hdescriptor, hdefault, hinterpolation, hclause, ?_⟩
  cases window with
  | none =>
      obtain rfl : none = found := by simpa [clauseFor] using hfound
      have hunresolved :
          ¬ descriptor.ResolvesIn env.dates now (env.zoneNamed context.timeZone) := by
        rintro ⟨bounds, hbounds⟩
        rw [hwindow] at hbounds
        cases hbounds
      refine ⟨⟨?_, fun h => absurd h hunresolved⟩, by simpa using hunresolved,
        fun bounds hbounds => absurd ⟨bounds, hbounds⟩ hunresolved⟩
      rintro ⟨low, high, heq⟩
      exact absurd heq.symm (TimeBounds.condition_ne_everything _ low high)
  | some bounds =>
      obtain ⟨clause, hbounded, rfl⟩ := Fault.map_eq_ok_iff.mp hfound
      have hresolved : descriptor.ResolvesIn env.dates now (env.zoneNamed context.timeZone) :=
        ⟨bounds, hwindow⟩
      obtain ⟨low, high, hends⟩ := TimeBounds.exists_of_filter_eq_ok hbounded
      refine ⟨⟨fun _ => hresolved, fun _ => ⟨low, high, hends⟩⟩, ?_, ?_⟩
      · rw [hends]
        exact ⟨fun h => absurd h (TimeBounds.condition_ne_everything _ low high),
          fun h => absurd hresolved h⟩
      · intro others hothers
        rw [hwindow] at hothers
        cases hothers
        exact hbounded

-- A column for time, and a range that begins at midnight on the clock of the given zone and ends at
-- three in universal time.
def firstNight (zone : String) : Cell :=
  .object
    [("time_column", .text "created"),
     ("time_range", .object
       [("kind", .text "absolute"), ("from", .text "2024-01-01T00:00:00"),
        ("to", .text "2024-01-01T03:00:00Z")]),
     ("time_zone", .text zone)]

def inMarch : Surroundings := .atClock .default ⟨1710306000000000000⟩ "chart_00000000"

theorem filter_bounds_firstNight :
    ∃ prepared result clause,
      ofQuery inMarch (.text "SELECT * FROM t WHERE $__timeFilter") (firstNight "Europe/London")
          inMarch.clock false = .ok prepared ∧
        prepared.interpolation = some result ∧ result.interpolated.timeFilter = some clause ∧
        ((∃ low high, clause = TimeBounds.condition "created" low high) ↔ clause ≠ "1=1") := by
  obtain ⟨context, hcontext, hcolumn⟩ := Fault.exists_ok_of_any
    (QueryContext.ofCell inMarch.settings (firstNight "Europe/London"))
    (fun context =>
      columnName context "SELECT * FROM t WHERE $__timeFilter".toList = "created")
    (by decide +kernel)
  obtain ⟨prepared, hprepared, hsuccess⟩ := Fault.exists_ok_of_any
    (ofQuery inMarch (.text "SELECT * FROM t WHERE $__timeFilter")
      (firstNight "Europe/London") inMarch.clock false)
    isSuccess (by decide +kernel)
  obtain ⟨descriptor, result, clause, -, -, hresult, hclause, hbound, hopen, -⟩ :=
    filter_bounds_iff_resolves hcontext hprepared hsuccess (by decide)
  rw [of_decide_eq_true hcolumn] at hbound
  refine ⟨prepared, result, clause, hprepared, hresult, hclause, ?_⟩
  rw [hbound, ne_eq, hopen, Classical.not_not]

-- West of Greenwich the same range ends before it begins. It passes the check all the same.
theorem success_without_bounds :
    TimeMacro.filter.occursIn "SELECT * FROM t WHERE $__timeFilter".toList = true ∧
    ((ofQuery inMarch (.text "SELECT * FROM t WHERE $__timeFilter") (firstNight "America/New_York")
        inMarch.clock false).toOption.map fun prepared =>
      (prepared.isSuccess, prepared.interpolation.map (·.query),
        prepared.interpolation.bind (·.interpolated.timeFilter))) =
      some (true, some "SELECT * FROM t WHERE 1=1", some "1=1") := by
  decide +kernel

end PreparedQuery

end TimePanel
