import TimePanel.Proofs.Query.Macro
import TimePanel.Proofs.TimeRange.Bounds
import TimePanel.Query.Validation

/-! What the check of a query says about its range, beside where that range leads to. -/

namespace TimePanel

namespace RangeDescriptor

-- Whether one of the ends is empty.
def isIncomplete (descriptor : RangeDescriptor) : Bool :=
  descriptor.start.isEmpty || descriptor.finish.isEmpty

variable {descriptor : RangeDescriptor} {dates : DateReader} {now : Instant} {zone : Zone}

theorem boundInstant_of_isEmpty {bound : RangeEnd} (h : bound.isEmpty = true) :
    bound.toCell.boundInstant dates now zone = .ok none := by
  cases bound with
  | moment value => cases h
  | written text =>
      obtain rfl := String.isEmpty_iff.mp h
      rfl

theorem effectiveFinish_eq (h : ∀ start, descriptor ≠ .relative start "") :
    descriptor.effectiveFinish = descriptor.finish := by
  unfold effectiveFinish
  split
  · next start => exact absurd rfl (h start)
  · rfl

-- A range with an empty end leads to no window.
theorem not_resolvesIn_of_isIncomplete (h : descriptor.isIncomplete = true)
    (hfinish : ∀ start, descriptor ≠ .relative start "") :
    ¬ descriptor.ResolvesIn dates now zone := by
  rintro ⟨bounds, hbounds⟩
  obtain ⟨-, hends, -⟩ := bounds_eq_some_iff.mp hbounds
  obtain ⟨start, hstart, hends⟩ := Fault.bind_eq_ok_iff.mp hends
  obtain ⟨finish, hfinishes, hends⟩ := Fault.bind_eq_ok_iff.mp hends
  cases Fault.pure_eq_ok_iff.mp hends
  rw [effectiveFinish_eq hfinish] at hfinishes
  rw [isIncomplete, Bool.or_eq_true] at h
  rcases h with hempty | hempty
  · rw [boundInstant_of_isEmpty hempty] at hstart
    cases hstart
  · rw [boundInstant_of_isEmpty hempty] at hfinishes
    cases hfinishes

end RangeDescriptor

namespace Cell

-- Whether a value describes a range one of whose ends is empty.
def isIncompleteRange (range : Cell) : Bool :=
  (RangeDescriptor.ofCell range).any (·.isIncomplete)

end Cell

namespace QueryValidation

theorem messageIf_eq_nil_iff {condition : Bool} {message : String} :
    messageIf condition message = [] ↔ condition = false := by
  cases condition <;> simp [messageIf]

theorem mem_messageIf_iff {condition : Bool} {message problem : String} :
    problem ∈ messageIf condition message ↔ condition = true ∧ problem = message := by
  cases condition <;> simp [messageIf]

-- The problems of a range: its shape, whether it is switched on, its ends and their order.
inductive IsRangeProblem : String → Prop where
  | shape : IsRangeProblem "Time range descriptor is not a recognised shape."
  | disabled :
    IsRangeProblem "Query contains time variables but the time range must be enabled."
  | incomplete :
    IsRangeProblem "Query contains time variables but the time range is incomplete."
  | start (quoted : String) :
    IsRangeProblem ("Time range 'from' could not be parsed: " ++ quoted ++ ".")
  | finish (quoted : String) :
    IsRangeProblem ("Time range 'to' could not be parsed: " ++ quoted ++ ".")
  | order : IsRangeProblem "Time range 'from' must precede 'to'."

-- Problems of macros name the macro first, those of a range never begin like one.
theorem IsRangeProblem.head_ne {problem : String} (h : IsRangeProblem problem) :
    problem.toList.head? ≠ some '$' := by
  cases h with
  | shape => decide
  | disabled => decide
  | incomplete => decide
  | start quoted => simp [String.toList_append]
  | finish quoted => simp [String.toList_append]
  | order => decide

theorem not_isRangeProblem_of_mem_macroErrors {query : List Char} {hasColumn hasRange : Bool}
    {problem : String} (h : problem ∈ macroErrors query hasColumn hasRange) :
    ¬ IsRangeProblem problem := by
  have hhead : problem.toList.head? = some '$' := by
    simp only [macroErrors, List.mem_append, mem_messageIf_iff] at h
    rcases h with ((⟨-, rfl⟩ | ⟨-, rfl⟩) | ⟨-, rfl⟩) | ⟨-, rfl⟩ <;> rfl
  exact fun hrange => hrange.head_ne hhead

variable {descriptor : RangeDescriptor} {dates : DateReader} {now : Instant} {zone : Zone}

-- Ends have no problems exactly if there is a window between them.
theorem endpointErrors_eq_nil_iff {ends : Option Instant × Option Instant} :
    endpointErrors descriptor ends = [] ↔ (TimeBounds.between? ends).isSome = true := by
  obtain ⟨start, finish⟩ := ends
  cases start with
  | none => simp [endpointErrors, messageIf, TimeBounds.between?]
  | some start =>
      cases finish with
      | none => simp [endpointErrors, messageIf, TimeBounds.between?]
      | some finish =>
          by_cases horder : start.ns < finish.ns
          · simp [endpointErrors, messageIf, TimeBounds.between?, horder]
          · simp [endpointErrors, messageIf, TimeBounds.between?, horder, Int.not_lt.mp horder]

theorem isRangeProblem_of_mem_endpointErrors {ends : Option Instant × Option Instant}
    {problem : String} (h : problem ∈ endpointErrors descriptor ends) :
    IsRangeProblem problem := by
  simp only [endpointErrors, List.mem_append, mem_messageIf_iff] at h
  rcases h with (⟨-, rfl⟩ | ⟨-, rfl⟩) | h
  · exact .start _
  · exact .finish _
  · split at h
    · obtain ⟨-, rfl⟩ := mem_messageIf_iff.mp h
      exact .order
    · cases h

-- What the check of a range comes to, by the ways that it takes.
theorem rangeErrors_cases (dates : DateReader) (now : Instant) (zone : Zone) (range : Cell) :
    (RangeDescriptor.ofCell range = none ∧
        rangeErrors dates now zone range =
          .ok ["Time range descriptor is not a recognised shape."]) ∨
      ∃ descriptor, RangeDescriptor.ofCell range = some descriptor ∧
        ((descriptor.isDisabled = true ∧
            rangeErrors dates now zone range =
              .ok ["Query contains time variables but the time range must be enabled."]) ∨
          (descriptor.isDisabled = false ∧ descriptor.isIncomplete = true ∧
            rangeErrors dates now zone range =
              .ok ["Query contains time variables but the time range is incomplete."]) ∨
          (descriptor.isDisabled = false ∧ descriptor.isIncomplete = false ∧
            rangeErrors dates now zone range =
              (descriptor.endpoints dates now zone).map (endpointErrors descriptor))) := by
  unfold rangeErrors
  cases hrange : RangeDescriptor.ofCell range with
  | none => exact .inl ⟨rfl, rfl⟩
  | some descriptor =>
      refine .inr ⟨descriptor, rfl, ?_⟩
      dsimp only
      cases hdisabled : descriptor.isDisabled with
      | true => exact .inl ⟨rfl, rfl⟩
      | false =>
          rw [if_neg Bool.false_ne_true]
          cases hincomplete : descriptor.isIncomplete with
          | true =>
              rw [RangeDescriptor.isIncomplete, Bool.or_eq_true] at hincomplete
              exact .inr (.inl ⟨rfl, rfl, if_pos hincomplete⟩)
          | false =>
              rw [← Bool.not_eq_true, RangeDescriptor.isIncomplete, Bool.or_eq_true] at hincomplete
              exact .inr (.inr ⟨rfl, rfl, if_neg hincomplete⟩)

-- A range without errors resolves in the zone that it was looked at in.
theorem resolvesIn_of_rangeErrors {range : Cell} (h : rangeErrors dates now zone range = .ok []) :
    ∃ descriptor, RangeDescriptor.ofCell range = some descriptor ∧
      descriptor.ResolvesIn dates now zone := by
  obtain ⟨-, heq⟩ | ⟨descriptor, hrange, ⟨-, heq⟩ | ⟨-, -, heq⟩ | ⟨hdisabled, -, heq⟩⟩ :=
    rangeErrors_cases dates now zone range
  · simp [heq] at h
  · simp [heq] at h
  · simp [heq] at h
  · rw [heq] at h
    obtain ⟨ends, hends, h⟩ := Fault.map_eq_ok_iff.mp h
    obtain ⟨bounds, hbounds⟩ := Option.isSome_iff_exists.mp (endpointErrors_eq_nil_iff.mp h)
    refine ⟨descriptor, hrange, bounds, ?_⟩
    rw [RangeDescriptor.bounds_of_not_isDisabled hdisabled, hends, ← hbounds]
    rfl

-- A query with the filter that has no errors comes with a range, which resolves in the default
-- zone.
theorem resolvesIn_of_errors {env : Surroundings} {query : String} {column : Option String}
    {range : Cell} {now : Instant} (h : errors env (.text query) column range now = .ok [])
    (hfilter : TimeMacro.filter.occursIn query.toList = true) :
    range.isNull = false ∧ ∃ descriptor, RangeDescriptor.ofCell range = some descriptor ∧
      descriptor.ResolvesIn env.dates now (env.zoneNamed "") := by
  simp only [errors, TimeMacro.anyIn_of_occursIn hfilter, Bool.not_true, Bool.false_eq_true,
    if_false] at h
  have hmacros {fromRange : List String}
      (h : macroErrors query.toList (column.any (!·.isEmpty)) (!range.isNull) ++ fromRange = []) :
      range.isNull = false := by
    simp only [macroErrors, List.append_eq_nil_iff, messageIf_eq_nil_iff,
      TimeMacro.standsIn_of_occursIn hfilter] at h
    simpa using h.1.1.1.2
  split at h
  · next hnull =>
    obtain ⟨fromRange, -, h⟩ := Fault.bind_eq_ok_iff.mp h
    rw [hmacros (Fault.pure_eq_ok_iff.mp h)] at hnull
    cases hnull
  · obtain ⟨fromRange, hrange, h⟩ := Fault.bind_eq_ok_iff.mp h
    have hall := Fault.pure_eq_ok_iff.mp h
    obtain ⟨-, rfl⟩ := List.append_eq_nil_iff.mp hall
    exact ⟨hmacros hall, resolvesIn_of_rangeErrors hrange⟩

theorem isRangeProblem_of_mem_rangeErrors {range : Cell} {problems : List String}
    (h : rangeErrors dates now zone range = .ok problems) {problem : String}
    (hmem : problem ∈ problems) : IsRangeProblem problem := by
  obtain ⟨-, heq⟩ | ⟨descriptor, -, ⟨-, heq⟩ | ⟨-, -, heq⟩ | ⟨-, -, heq⟩⟩ :=
    rangeErrors_cases dates now zone range
  · obtain rfl := Except.ok.inj (heq.symm.trans h)
    obtain rfl := List.mem_singleton.mp hmem
    exact .shape
  · obtain rfl := Except.ok.inj (heq.symm.trans h)
    obtain rfl := List.mem_singleton.mp hmem
    exact .disabled
  · obtain rfl := Except.ok.inj (heq.symm.trans h)
    obtain rfl := List.mem_singleton.mp hmem
    exact .incomplete
  · obtain ⟨ends, -, rfl⟩ := Fault.map_eq_ok_iff.mp (heq.symm.trans h)
    exact isRangeProblem_of_mem_endpointErrors hmem

-- The check finds something wrong with a range exactly if it leads to no window, or if one end is
-- empty and the other one makes the reader fail, which the check does not come to see.
theorem exists_rangeErrors_iff {range : Cell}
    (hfinish : ∀ start, RangeDescriptor.ofCell range ≠ some (.relative start "")) :
    (∃ problems, rangeErrors dates now zone range = .ok problems ∧ problems ≠ []) ↔
      range.bounds dates now zone = .ok none ∨
        range.isIncompleteRange = true ∧ ∃ fault, range.bounds dates now zone = .error fault := by
  obtain ⟨hrange, heq⟩ | ⟨descriptor, hrange, hcases⟩ := rangeErrors_cases dates now zone range
  · simp [heq, Cell.bounds, hrange]
  · have hrelative (start : String) : descriptor ≠ .relative start "" := by
      rintro rfl
      exact hfinish start hrange
    simp only [Cell.bounds, Cell.isIncompleteRange, hrange, Option.any_some]
    obtain ⟨hdisabled, heq⟩ | ⟨-, hincomplete, heq⟩ | ⟨hdisabled, hincomplete, heq⟩ := hcases
    · simp [heq, RangeDescriptor.bounds_of_isDisabled hdisabled]
    · have hunresolved : ¬ descriptor.ResolvesIn dates now zone :=
        RangeDescriptor.not_resolvesIn_of_isIncomplete hincomplete hrelative
      cases hbounds : descriptor.bounds dates now zone with
      | error fault => simp [heq, hincomplete]
      | ok found =>
          cases found with
          | none => simp [heq]
          | some bounds => exact absurd ⟨bounds, hbounds⟩ hunresolved
    · rw [heq, RangeDescriptor.bounds_of_not_isDisabled hdisabled]
      cases descriptor.endpoints dates now zone with
      | error fault => simp [Except.map, hincomplete]
      | ok ends =>
          have hwindow : endpointErrors descriptor ends = [] ↔ _ := endpointErrors_eq_nil_iff
          cases hbetween : TimeBounds.between? ends with
          | none => simpa [Except.map, hbetween] using hwindow
          | some bounds => simpa [Except.map, hbetween] using hwindow

-- Whether the check of a query reports a problem of its range.
def ReportsRange (env : Surroundings) (query : String) (column : Option String) (range : Cell)
    (now : Instant) : Prop :=
  ∃ problems, errors env (.text query) column range now = .ok problems ∧
    ∃ problem ∈ problems, IsRangeProblem problem

theorem reportsRange_iff {env : Surroundings} {query : String} {range : Cell}
    (hused : TimeMacro.anyIn query.toList = true) (hrange : range.isNull = false)
    (column : Option String) (now : Instant) :
    ReportsRange env query column range now ↔
      ∃ problems, rangeErrors env.dates now (env.zoneNamed "") range = .ok problems ∧
        problems ≠ [] := by
  simp only [ReportsRange, errors, hused, hrange, Bool.not_true, Bool.false_eq_true, if_false]
  cases hproblems : rangeErrors env.dates now (env.zoneNamed "") range with
  | error fault => simp [bind, Except.bind]
  | ok problems =>
      simp only [bind, Except.bind, pure, Except.pure, Except.ok.injEq, exists_eq_left']
      constructor
      · rintro ⟨problem, hmem, hproblem⟩ rfl
        rw [List.append_nil] at hmem
        exact not_isRangeProblem_of_mem_macroErrors hmem hproblem
      · intro hne
        obtain ⟨problem, hmem⟩ := List.exists_mem_of_ne_nil problems hne
        exact ⟨problem, List.mem_append_right _ hmem,
          isRangeProblem_of_mem_rangeErrors hproblems hmem⟩

-- A query with macros is said to have a problem with its range exactly if the range leads to no
-- window in the default zone, but for ranges with an empty end whose other end makes the reader
-- fail: they are reported all the same, and resolving them fails. With a reader that only fails on
-- values there are none of these.
theorem reportsRange_iff_unresolved {env : Surroundings} {query : String} {range : Cell}
    (hused : TimeMacro.anyIn query.toList = true) (hrange : range.isNull = false)
    (hfinish : ∀ start, RangeDescriptor.ofCell range ≠ some (.relative start ""))
    (column : Option String) (now : Instant) :
    (ReportsRange env query column range now ↔
      range.bounds env.dates now (env.zoneNamed "") = .ok none ∨
        range.isIncompleteRange = true ∧
          ∃ fault, range.bounds env.dates now (env.zoneNamed "") = .error fault) ∧
    (env.dates.FailsOnValues →
      (ReportsRange env query column range now ↔
        range.bounds env.dates now (env.zoneNamed "") = .ok none)) := by
  have hexact : ReportsRange env query column range now ↔ _ :=
    (reportsRange_iff hused hrange column now).trans (exists_rangeErrors_iff hfinish)
  refine ⟨hexact, fun hdates => hexact.trans ?_⟩
  obtain ⟨found, hfound, -⟩ := range.exists_bounds hdates now (env.zoneNamed "")
  simp [hfound]

-- A range as a query carries it, between two texts.
def written (start finish : String) : Cell :=
  .object [("from", .text start), ("to", .text finish)]

theorem ofCell_written (start finish : String) :
    RangeDescriptor.ofCell (written start finish) = some (.query start finish true none) := rfl

def march : Surroundings := .atClock .default ⟨1710306000000000000⟩ "chart_00000000"

-- The same with a reader that takes what it cannot deal with for no dates. A start before the first
-- year is no start, and so is reported.
def guardedMarch : Surroundings := { march with dates := march.dates.guarded }

theorem reportsRange_iff_unresolved_far :
    ReportsRange guardedMarch "SELECT $__timeFilter" (some "created") (written "now-20000y" "now")
        march.clock ∧
      (written "now-20000y" "now").bounds guardedMarch.dates march.clock
        (guardedMarch.zoneNamed "") = .ok none := by
  have hbounds : (written "now-20000y" "now").bounds guardedMarch.dates march.clock
      (guardedMarch.zoneNamed "") = .ok none := by decide +kernel
  have hfinish (start : String) :
      RangeDescriptor.ofCell (written "now-20000y" "now") ≠ some (.relative start "") := by
    simp [ofCell_written]
  have hused : TimeMacro.anyIn "SELECT $__timeFilter".toList = true := by decide
  obtain ⟨-, hguarded⟩ := reportsRange_iff_unresolved hused rfl hfinish (some "created") march.clock
  exact ⟨(hguarded march.dates.failsOnValues_guarded).mpr hbounds, hbounds⟩

-- An empty start is reported, although the end has more digits than the reader can deal with, so
-- that the range does not lead to no window: resolving it fails.
theorem reportsRange_of_unreadable :
    TimeMacro.anyIn "SELECT $__timeFilter".toList = true ∧
    (∀ start, RangeDescriptor.ofCell (written "" "111111111111111111111111111111 h") ≠
      some (.relative start "")) ∧
    (written "" "111111111111111111111111111111 h").bounds march.dates march.clock
      (march.zoneNamed "") = .error .precisionExceeded ∧
    ¬ (ReportsRange march "SELECT $__timeFilter" (some "created")
          (written "" "111111111111111111111111111111 h") march.clock ↔
        (written "" "111111111111111111111111111111 h").bounds march.dates march.clock
          (march.zoneNamed "") = .ok none) := by
  have hfails : (written "" "111111111111111111111111111111 h").bounds march.dates march.clock
      (march.zoneNamed "") = .error .precisionExceeded := by decide +kernel
  have hreports : ReportsRange march "SELECT $__timeFilter" (some "created")
      (written "" "111111111111111111111111111111 h") march.clock :=
    ⟨_, rfl, _, List.mem_cons_self, .incomplete⟩
  refine ⟨by decide, by simp [ofCell_written], hfails, ?_⟩
  rw [hfails]
  exact fun hiff => nomatch hiff.mp hreports

end QueryValidation

end TimePanel
