import TimePanel.Proofs.Query.Interpolation

/-! The passes over a query, joined into one substitution. -/

namespace TimePanel

namespace Calendar

-- Numbers are written in digits.
theorem dollar_not_mem_digits (n : Nat) : '$' ∉ Nat.toDigits 10 n :=
  fun hmem => absurd (Nat.isDigit_of_mem_toDigits (by decide) (by decide) hmem) (by decide)

theorem dollar_not_mem_padded (width n : Nat) : '$' ∉ (padded width n).toList := by
  simp [padded, dollar_not_mem_digits]

theorem dollar_not_mem_nat (n : Nat) : '$' ∉ (toString n).toList := by
  rw [Nat.toString_eq_repr, Nat.toList_repr]
  exact dollar_not_mem_digits n

theorem mem_int {n : Int} {c : Char} (h : c ∈ (toString n).toList) :
    c = '-' ∨ c.isDigit = true := by
  have hdigit {m : Nat} (hc : c ∈ Nat.toDigits 10 m) : c.isDigit = true :=
    Nat.isDigit_of_mem_toDigits (by decide) (by decide) hc
  rw [Int.toString_eq_repr, Int.repr_eq_if] at h
  split at h
  · exact .inr (hdigit (by simpa [Nat.toList_repr] using h))
  · rw [String.toList_append, List.mem_append] at h
    rcases h with h | h
    · exact .inl (by simpa using h)
    · exact .inr (hdigit (by simpa [Nat.toList_repr] using h))

theorem int_ne_nil (n : Int) : (toString n).toList ≠ [] := by
  rw [Int.toString_eq_repr, Int.repr_eq_if]
  split <;> simp [Nat.toList_repr]

theorem dollar_not_mem_int (n : Int) : '$' ∉ (toString n).toList := by
  intro h
  rcases mem_int h with h | h
  · exact absurd h (by decide)
  · exact absurd h (by decide)

end Calendar

namespace TimeBounds

open Calendar

theorem dollar_not_mem_literal (wall : WallTime) : '$' ∉ wall.literal.toList := by
  simp only [WallTime.literal, secondsText, String.toList_append, List.mem_append, not_or]
  refine ⟨⟨⟨⟨⟨⟨?_, by decide⟩, ?_⟩, by decide⟩, ?_⟩, by decide⟩,
    ⟨⟨⟨?_, by decide⟩, ?_⟩, by decide⟩, ?_⟩
  · exact dollar_not_mem_nat _
  all_goals exact dollar_not_mem_padded _ _

theorem dollar_not_mem_condition {column low high : String} (hcolumn : '$' ∉ column.toList)
    (hlow : '$' ∉ low.toList) (hhigh : '$' ∉ high.toList) :
    '$' ∉ (condition column low high).toList := by
  simp [condition, String.toList_append, hcolumn, hlow, hhigh]

-- A condition on a column that has no dollar sign has none.
theorem dollar_not_mem_filter {bounds : TimeBounds} {column clause : String}
    {schema : Option ColumnDescriptor} {zone : Zone} (hcolumn : '$' ∉ column.toList)
    (h : bounds.filter column schema zone = .ok clause) : '$' ∉ clause.toList := by
  have hquoted (wall : WallTime) : '$' ∉ ("'" ++ wall.literal ++ "'").toList := by
    simp [String.toList_append, dollar_not_mem_literal wall]
  unfold filter at h
  dsimp only at h
  split at h
  · obtain rfl := Fault.pure_eq_ok_iff.mp h
    exact dollar_not_mem_condition hcolumn (dollar_not_mem_int _) (dollar_not_mem_int _)
  · obtain ⟨low, -, h⟩ := Fault.bind_eq_ok_iff.mp h
    obtain ⟨high, -, h⟩ := Fault.bind_eq_ok_iff.mp h
    obtain rfl := Fault.pure_eq_ok_iff.mp h
    exact dollar_not_mem_condition hcolumn (hquoted _) (hquoted _)

end TimeBounds

namespace Interpolation

open TimeMacro Piece Calendar

section

variable (env : Surroundings) (context : QueryContext) (column : String)
  (window : Option TimeBounds)

-- The text that stands for a macro in the end. The macro for the column has been dealt with before,
-- and those for the ends of the range stay if there is no window.
def valueOf : TimeMacro → Except Fault (Option (List Char))
  | .filter =>
      (clauseFor env context column window).map fun clause => some (clause.getD "1=1").toList
  | .field => .ok none
  | .interval =>
      (intervalFor env context window).map fun seconds => some (toString seconds ++ "s").toList
  | .start => .ok ((endsFor context column window).map fun ends => (toString ends.1).toList)
  | .finish => .ok ((endsFor context column window).map fun ends => (toString ends.2).toList)

-- The query once its time column is in place and the aliases of it are resolved.
def withColumn (query : List Char) : List Char :=
  match columnFor context query with
  | some column =>
      TimeAlias.resolveAll (TimeMacro.field.replace column.toList query) column.toList
  | none => query

end

variable {env : Surroundings} {context : QueryContext} {column : String}
  {window : Option TimeBounds} {now : Instant}

theorem columnDraft_text (env : Surroundings) (context : QueryContext) (query : List Char) :
    (columnDraft env context query).text = withColumn context (Sanitizer.repair query) := by
  rw [columnDraft, chosenColumn, firstDraft, withColumn]
  cases columnFor context (Sanitizer.repair query) with
  | none => rfl
  | some column => exact placeColumn_text column _

-- A column without dollar signs keeps the macros of a query apart, and takes the place of its own.
theorem exists_pieces_withColumn {query : List Char} (h : isDelimited query = true)
    (hcolumn : ∀ column, columnFor context query = some column → '$' ∉ column.toList) :
    ∃ pieces, Delimited pieces ∧ textOf pieces = withColumn context query ∧
      .token .field ∉ pieces := by
  obtain ⟨pieces, hpieces, rfl⟩ := exists_pieces h
  unfold withColumn
  cases hchosen : columnFor context (textOf pieces) with
  | none =>
      refine ⟨pieces, hpieces, rfl, fun hmem => ?_⟩
      rw [← standsIn_textOf hpieces] at hmem
      simp [columnFor, hmem] at hchosen
  | some column =>
      have hfree := hcolumn column hchosen
      obtain ⟨result, hresult, hsame, htext⟩ := TimeAlias.exists_pieces_resolveAll hfree
        (delimited_fill_only .field hfree hpieces)
      refine ⟨result, hresult, ?_, ?_⟩
      · rw [htext, ← replace_textOf hpieces]
      · rw [hsame, token_mem_fill_iff]
        simp [only]

-- One pass: it puts in a text without dollar signs, which is the value of its macro if the macro
-- stands in the text before.
def PassFor (env : Surroundings) (context : QueryContext) (column : String)
    (window : Option TimeBounds) (timeMacro : TimeMacro) (before after : List Char) : Prop :=
  ∃ value, '$' ∉ value ∧ after = timeMacro.replace value before ∧
    (timeMacro.standsIn before = true →
      valueOf env context column window timeMacro = .ok (some value))

theorem PassFor.of_absent {timeMacro : TimeMacro} {text : List Char}
    (h : timeMacro.standsIn text = false) :
    PassFor env context column window timeMacro text text :=
  ⟨[], by simp, (replace_of_not_standsIn [] h).symm, by simp [h]⟩

theorem dollar_not_mem_clause {found : Option String} (hcolumn : '$' ∉ column.toList)
    (h : clauseFor env context column window = .ok found) : '$' ∉ (found.getD "1=1").toList := by
  cases window with
  | none =>
      obtain rfl : none = found := by simpa [clauseFor] using h
      decide
  | some bounds =>
      obtain ⟨clause, hclause, rfl⟩ := Fault.map_eq_ok_iff.mp h
      exact TimeBounds.dollar_not_mem_filter hcolumn hclause

theorem passFor_filter {draft filtered : Draft} (hcolumn : '$' ∉ column.toList)
    (h : placeFilter (clauseFor env context column window) draft = .ok filtered) :
    PassFor env context column window .filter draft.text filtered.text := by
  rcases placeFilter_eq_ok h with ⟨habsent, rfl⟩ | ⟨-, found, hfound, rfl⟩
  · exact .of_absent habsent
  · exact ⟨(found.getD "1=1").toList, dollar_not_mem_clause hcolumn hfound, rfl,
      fun _ => by simp [valueOf, hfound, Except.map]⟩

theorem passFor_interval {draft spaced : Draft}
    (h : placeInterval (intervalFor env context window) draft = .ok spaced) :
    PassFor env context column window .interval draft.text spaced.text := by
  rcases placeInterval_eq_ok h with ⟨habsent, rfl⟩ | ⟨-, seconds, hseconds, rfl⟩
  · exact .of_absent habsent
  · refine ⟨(toString seconds ++ "s").toList, ?_, rfl,
      fun _ => by simp [valueOf, hseconds, Except.map]⟩
    rw [String.toList_append, List.mem_append, not_or]
    exact ⟨dollar_not_mem_int _, by decide⟩

theorem passFor_start {ends : Int × Int} (hends : endsFor context column window = some ends)
    (draft : Draft) :
    PassFor env context column window .start draft.text (placeStart ends.1 draft).text := by
  by_cases hstands : TimeMacro.start.standsIn draft.text = true
  · exact ⟨(toString ends.1).toList, dollar_not_mem_int _, by simp [placeStart, hstands],
      fun _ => by simp [valueOf, hends]⟩
  · simpa [placeStart, hstands] using PassFor.of_absent (Bool.not_eq_true _ ▸ hstands)

theorem passFor_finish {ends : Int × Int} (hends : endsFor context column window = some ends)
    (draft : Draft) :
    PassFor env context column window .finish draft.text (placeFinish ends.2 draft).text := by
  by_cases hstands : TimeMacro.finish.standsIn draft.text = true
  · exact ⟨(toString ends.2).toList, dollar_not_mem_int _, by simp [placeFinish, hstands],
      fun _ => by simp [valueOf, hends]⟩
  · simpa [placeFinish, hstands] using PassFor.of_absent (Bool.not_eq_true _ ▸ hstands)

theorem placeEnds_none_text (draft : Draft) : (placeEnds none draft).text = draft.text := by
  unfold placeEnds
  split <;> rfl

theorem placeEnds_some (ends : Int × Int) (draft : Draft) :
    placeEnds (some ends) draft = placeFinish ends.2 (placeStart ends.1 draft) := by
  by_cases hstands :
      TimeMacro.start.standsIn draft.text = true ∨ TimeMacro.finish.standsIn draft.text = true
  · simp [placeEnds, hstands]
  · obtain ⟨hstart, hfinish⟩ := not_or.mp hstands
    simp [placeEnds, placeStart, placeFinish, hstart, hfinish]

-- A run is a sequence of passes for the macros that have values, each with its value.
theorem exists_steps {query : List Char} {result : Interpolation}
    (h : ofContext env context query now = .ok result) (hproblems : Sanitizer.problems query = [])
    (hcolumn : '$' ∉ (columnName context query).toList) :
    ∃ (window : Option TimeBounds) (steps : List (TimeMacro × List Char)),
      windowFor env context now (withColumn context query) = .ok window ∧
      (∀ step ∈ steps, '$' ∉ step.2) ∧
      (∀ timeMacro, timeMacro.standsIn (withColumn context query) = true →
        valueOf env context (columnName context query) window timeMacro =
          .ok (steps.lookup timeMacro)) ∧
      result.query.toList =
        steps.foldl (fun text step => step.1.replace step.2 text) (withColumn context query) ∧
      result.errors = zoneErrors env context ++
        if window = none ∧ (TimeMacro.start.standsIn result.query.toList ∨
            TimeMacro.finish.standsIn result.query.toList)
        then [unresolvedEnds] else [] := by
  obtain ⟨window, filtered, spaced, hwindow, hfiltered, hspaced, hquery, -, herrors⟩ :=
    ofContext_eq_ok h
  have hfilter := passFor_filter hcolumn hfiltered
  have hinterval : PassFor env context (columnName context query) window .interval filtered.text
      spaced.text := passFor_interval hspaced
  rw [columnDraft_text, Sanitizer.repair_of_problems_eq_nil hproblems] at hwindow hfilter
  obtain ⟨clause, hclause, hclauseText, hclauseValue⟩ := hfilter
  obtain ⟨seconds, hseconds, hsecondsText, hsecondsValue⟩ := hinterval
  -- What stands in the text at first still does when its own pass begins.
  have hkept {timeMacro : TimeMacro} (hfilter : .filter ≠ timeMacro)
      (hinterval : .interval ≠ timeMacro)
      (hstands : timeMacro.standsIn (withColumn context query) = true) :
      timeMacro.standsIn spaced.text = true := by
    rw [hsecondsText, hclauseText]
    exact standsIn_replace hinterval _ (standsIn_replace hfilter _ hstands)
  have hsecondsValue' (hstands : TimeMacro.interval.standsIn (withColumn context query) = true) :=
    hsecondsValue (hclauseText ▸ standsIn_replace (by decide) _ hstands)
  have hspacedErrors : spaced.errors = zoneErrors env context := by
    rw [(placeInterval_keeps hspaced).2, placeFilter_errors hfiltered, columnDraft,
      placeColumn_errors, firstDraft, hproblems, List.nil_append]
  rw [placeEnds_errors, hspacedErrors] at herrors
  rw [herrors, hquery, String.toList_ofList]
  cases hends : endsFor context (columnName context query) window with
  | none =>
      have hnone : window = none := by simpa [endsFor] using hends
      refine ⟨window, [(.filter, clause), (.interval, seconds)], hwindow,
        by simp [hclause, hseconds],
        ?_, ?_, by simp [hnone, placeEnds_none_text]⟩
      · intro timeMacro hstands
        cases timeMacro with
        | filter => exact hclauseValue hstands
        | interval => exact hsecondsValue' hstands
        | field => rfl
        | start =>
            simp only [valueOf, hends]
            rfl
        | finish =>
            simp only [valueOf, hends]
            rfl
      · rw [placeEnds_none_text, hsecondsText, hclauseText]
        rfl
  | some ends =>
      obtain ⟨first, hfirst, hfirstText, hfirstValue⟩ := passFor_start hends spaced
      obtain ⟨last, hlast, hlastText, hlastValue⟩ := passFor_finish hends (placeStart ends.1 spaced)
      have hsome : window ≠ none := by
        rintro rfl
        cases hends
      refine ⟨window, [(.filter, clause), (.interval, seconds), (.start, first), (.finish, last)],
        hwindow, by simp [hclause, hseconds, hfirst, hlast], ?_, ?_, by simp [hsome]⟩
      · intro timeMacro hstands
        cases timeMacro with
        | filter => exact hclauseValue hstands
        | interval => exact hsecondsValue' hstands
        | field => rfl
        | start => exact hfirstValue (hkept (by decide) (by decide) hstands)
        | finish =>
            apply hlastValue
            rw [hfirstText]
            exact standsIn_replace (by decide) _ (hkept (by decide) (by decide) hstands)
      · rw [placeEnds_some, hlastText, hfirstText, hsecondsText, hclauseText]
        rfl

-- Values that are found are texts for the filter and the interval. For the ends of the range they
-- are texts exactly if there is a window.
theorem eq_none_iff_of_valueOf {timeMacro : TimeMacro} {value : Option (List Char)}
    (hfield : timeMacro ≠ .field)
    (h : valueOf env context column window timeMacro = .ok value) :
    value = none ↔ window = none ∧ (timeMacro = .start ∨ timeMacro = .finish) := by
  cases timeMacro with
  | filter =>
      obtain ⟨clause, -, rfl⟩ := Fault.map_eq_ok_iff.mp h
      simp
  | field => exact absurd rfl hfield
  | interval =>
      obtain ⟨seconds, -, rfl⟩ := Fault.map_eq_ok_iff.mp h
      simp
  | start =>
      cases h
      simp [endsFor]
  | finish =>
      cases h
      simp [endsFor]

theorem unresolvedEnds_not_mem_zoneErrors : unresolvedEnds ∉ zoneErrors env context := by
  unfold zoneErrors
  split
  · rw [List.mem_singleton]
    intro heq
    have hhead := congrArg (·.toList.head?) heq
    simp [unresolvedEnds, String.toList_append] at hhead
  · simp

theorem columnName_eq {query : List Char} (h : Sanitizer.problems query = []) :
    columnName context query = (columnFor context query).getD TimeColumn.fallback := by
  rw [columnName, chosenColumn, Sanitizer.repair_of_problems_eq_nil h]

-- A query with a time column in the place of its macro and the aliases of it resolved, if there is
-- one.
def inColumn (query : List Char) : Option String → List Char
  | some column =>
      TimeAlias.resolveAll (TimeMacro.field.replace column.toList query) column.toList
  | none => query

-- The time column of a query: the one that its context names, or else, if the macro asks for one,
-- the best guess.
inductive IsColumnFor (context : QueryContext) (query : List Char) : Option String → Prop
  | named {column : String} (hname : context.timeColumnWithSchema.1 = some column)
      (hsome : column ≠ "") : IsColumnFor context query (some column)
  | guessed (hname : ∀ column, context.timeColumnWithSchema.1 = some column → column = "")
      (hfield : TimeMacro.field.standsIn query = true) :
      IsColumnFor context query (some (String.ofList (TimeColumn.detect query)))
  | missing (hname : ∀ column, context.timeColumnWithSchema.1 = some column → column = "")
      (hfield : TimeMacro.field.standsIn query = false) : IsColumnFor context query none

section

variable (env : Surroundings) (context : QueryContext) (column : String)

-- What a macro stands for over a column and in a window of time: the condition that the column lies
-- in the window, the width of a bucket, and the ends of the window in ticks of the column. Without
-- a window the condition always holds, the width comes from the settings, and there are no ends.
inductive IsValueOf : Option TimeBounds → TimeMacro → List Char → Prop
  | condition {bounds : TimeBounds} {clause : String}
      (hclause : bounds.filter column context.timeColumnWithSchema.2
        (env.zoneNamed context.timeZone) = .ok clause) :
      IsValueOf (some bounds) .filter clause.toList
  | everything : IsValueOf none .filter "1=1".toList
  | width {bounds : TimeBounds} {seconds : Int}
      (hseconds : bounds.interval context.maxPoints = .ok seconds) :
      IsValueOf (some bounds) .interval (toString seconds ++ "s").toList
  | fallback :
      IsValueOf none .interval (toString env.settings.fallbackIntervalSeconds ++ "s").toList
  | start (bounds : TimeBounds) :
      IsValueOf (some bounds) .start
        (toString (bounds.ticks (TimeColumn.unitOr column
          (TimeColumn.unit column context.timeColumnWithSchema.2))).1).toList
  | finish (bounds : TimeBounds) :
      IsValueOf (some bounds) .finish
        (toString (bounds.ticks (TimeColumn.unitOr column
          (TimeColumn.unit column context.timeColumnWithSchema.2))).2).toList

end

theorem withColumn_eq (context : QueryContext) (query : List Char) :
    withColumn context query = inColumn query (columnFor context query) := by
  unfold withColumn inColumn
  cases columnFor context query <;> rfl

theorem isColumnFor_columnFor (context : QueryContext) (query : List Char) :
    IsColumnFor context query (columnFor context query) := by
  cases hnamed : context.timeColumnWithSchema.1.filter (!·.isEmpty) with
  | some column =>
      obtain ⟨hname, hsome⟩ := Option.filter_eq_some_iff.mp hnamed
      have hcolumn : columnFor context query = some column := by rw [columnFor, hnamed]; rfl
      rw [hcolumn]
      exact .named hname (by simpa [String.isEmpty_iff] using hsome)
  | none =>
      have hname : ∀ column, context.timeColumnWithSchema.1 = some column → column = "" := by
        simpa [Option.filter_eq_none_iff, String.isEmpty_iff] using hnamed
      cases hfield : TimeMacro.field.standsIn query with
      | true =>
          have hcolumn : columnFor context query =
              some (String.ofList (TimeColumn.detect query)) := by
            simp [columnFor, hnamed, hfield]
          rw [hcolumn]
          exact .guessed hname hfield
      | false =>
          have hcolumn : columnFor context query = none := by simp [columnFor, hnamed, hfield]
          rw [hcolumn]
          exact .missing hname hfield

-- What a pass puts in, if anything, is what its macro stands for.
theorem isValueOf_iff {timeMacro : TimeMacro} {found : Option (List Char)}
    (hfield : timeMacro ≠ .field)
    (h : valueOf env context column window timeMacro = .ok found) (value : List Char) :
    found = some value ↔ IsValueOf env context column window timeMacro value := by
  cases timeMacro with
  | filter =>
      obtain ⟨found, hfound, rfl⟩ := Fault.map_eq_ok_iff.mp h
      cases window with
      | none =>
          obtain rfl : none = found := by simpa [clauseFor] using hfound
          constructor
          · rintro ⟨⟩
            exact .everything
          · rintro ⟨⟩
            rfl
      | some bounds =>
          obtain ⟨clause, hclause, rfl⟩ := Fault.map_eq_ok_iff.mp hfound
          constructor
          · rintro ⟨⟩
            exact .condition hclause
          · intro hvalue
            cases hvalue with
            | condition hclause' =>
                rw [zoneOf] at hclause
                cases hclause.symm.trans hclause'
                rfl
  | field => exact absurd rfl hfield
  | interval =>
      obtain ⟨seconds, hseconds, rfl⟩ := Fault.map_eq_ok_iff.mp h
      cases window with
      | none =>
          obtain rfl : env.settings.fallbackIntervalSeconds = seconds := by
            simpa [intervalFor] using hseconds
          constructor
          · rintro ⟨⟩
            exact .fallback
          · rintro ⟨⟩
            rfl
      | some bounds =>
          constructor
          · rintro ⟨⟩
            exact .width hseconds
          · intro hvalue
            cases hvalue with
            | width hseconds' =>
                cases hseconds.symm.trans hseconds'
                rfl
  | start =>
      cases h
      cases window with
      | none => exact ⟨nofun, nofun⟩
      | some bounds =>
          constructor
          · rintro ⟨⟩
            exact .start bounds
          · rintro ⟨⟩
            rfl
  | finish =>
      cases h
      cases window with
      | none => exact ⟨nofun, nofun⟩
      | some bounds =>
          constructor
          · rintro ⟨⟩
            exact .finish bounds
          · rintro ⟨⟩
            rfl

-- Where a macro needs the range of the context, the window is that of the range. A range that is
-- missing has none.
theorem bounds_of_windowFor {text : List Char} {timeMacro : TimeMacro}
    (h : windowFor env context now text = .ok window) (hfield : timeMacro ≠ .field)
    (hstands : timeMacro.standsIn text = true) :
    context.timeRange.bounds env.dates now (env.zoneNamed context.timeZone) = .ok window := by
  have hneeds : needsRange text = true := by
    cases timeMacro with
    | field => exact absurd rfl hfield
    | _ => simp [needsRange, hstands]
  cases hnull : context.timeRange.isNull with
  | false => simpa [windowFor, hneeds, hnull, zoneOf] using h
  | true =>
      obtain rfl : none = window := by simpa [windowFor, hneeds, hnull] using h
      have hrange : context.timeRange = .null := by
        cases hcell : context.timeRange with
        | null => rfl
        | _ => simp [hcell, Cell.isNull] at hnull
      rw [hrange]
      rfl

-- On a query in which every dollar sign begins a macro that stands alone, the passes amount to one
-- substitution in the query with its column: no value that one pass puts in, and no alias that is
-- resolved, makes or breaks a macro for the passes after it. Each macro gets what it stands for in
-- the window of the context's range. Without a window the macros for its ends, and no others, are
-- left.
theorem query_eq_substitute {given : Cell} {query : String} {result : Interpolation}
    (hcontext : QueryContext.ofCell env.settings given = .ok context)
    (hproblems : Sanitizer.problems query.toList = [])
    (hdelimited : isDelimited query.toList = true)
    (hcolumn : ∀ column, IsColumnFor context query.toList (some column) → '$' ∉ column.toList)
    (h : ofQuery env (.text query) given now = .ok result) :
    ∃ (column : Option String) (window : Option TimeBounds)
      (values : TimeMacro → Option (List Char)),
      IsColumnFor context query.toList column ∧
      (∀ timeMacro : TimeMacro, timeMacro.standsIn (inColumn query.toList column) = true →
        context.timeRange.bounds env.dates now (env.zoneNamed context.timeZone) = .ok window ∧
        ∀ value, values timeMacro = some value ↔
          IsValueOf env context (column.getD TimeColumn.fallback) window timeMacro value) ∧
      result.query.toList = substitute values (inColumn query.toList column) ∧
      (∀ timeMacro : TimeMacro, timeMacro.standsIn result.query.toList = true ↔
        timeMacro.standsIn (inColumn query.toList column) = true ∧ window = none ∧
          (timeMacro = .start ∨ timeMacro = .finish)) ∧
      (unresolvedEnds ∈ result.errors ↔
        window = none ∧ (TimeMacro.start.standsIn (inColumn query.toList column) = true ∨
          TimeMacro.finish.standsIn (inColumn query.toList column) = true)) := by
  have hchosen := isColumnFor_columnFor context query.toList
  have hfree : ∀ column, columnFor context query.toList = some column → '$' ∉ column.toList :=
    fun column heq => hcolumn column (heq ▸ hchosen)
  refine ⟨columnFor context query.toList, ?_⟩
  simp only [ofQuery, hcontext, inContext] at h
  rw [← columnName_eq hproblems, ← withColumn_eq]
  split at h
  · next hempty =>
    cases h
    rw [String.isEmpty_iff.mp hempty] at hchosen ⊢
    have hnothing : withColumn context "".toList = [] := by
      unfold withColumn
      split <;> rfl
    rw [hnothing]
    have habsent (timeMacro : TimeMacro) : timeMacro.standsIn [] = false := by
      cases timeMacro <;> rfl
    exact ⟨none, fun _ => none, hchosen, by simp [habsent], rfl,
      by simp [habsent, invalidQuery], by simp [habsent, invalidQuery, unresolvedEnds]⟩
  · obtain ⟨pieces, hpieces, htext, hfield⟩ := exists_pieces_withColumn hdelimited hfree
    have hname : '$' ∉ (columnName context query.toList).toList := by
      rw [columnName_eq hproblems]
      cases hchosen : columnFor context query.toList with
      | none => decide
      | some column => exact hfree column hchosen
    obtain ⟨window, steps, hwindow, hsteps, hvalues, hquery, herrors⟩ :=
      exists_steps h hproblems hname
    rw [← htext] at hvalues hquery hwindow ⊢
    rw [foldl_replace_textOf hsteps hpieces] at hquery
    have hplain (timeMacro : TimeMacro) (value : List Char)
        (hvalue : steps.lookup timeMacro = some value) : '$' ∉ value := by
      obtain ⟨before, after, heq, -⟩ := List.lookup_eq_some_iff.mp hvalue
      exact hsteps (timeMacro, value) (by simp [heq])
    -- The column has taken the place of its macro.
    have hother {timeMacro : TimeMacro} (hstands : timeMacro.standsIn (textOf pieces) = true) :
        timeMacro ≠ .field := by
      rintro rfl
      exact hfield ((standsIn_textOf hpieces).mp hstands)
    have hleft (timeMacro : TimeMacro) : timeMacro.standsIn result.query.toList = true ↔
        timeMacro.standsIn (textOf pieces) = true ∧ window = none ∧
          (timeMacro = .start ∨ timeMacro = .finish) := by
      rw [hquery, standsIn_substitute_iff hplain hpieces, and_congr_right_iff]
      intro hstands
      exact eq_none_iff_of_valueOf (hother hstands) (hvalues timeMacro hstands)
    refine ⟨window, fun timeMacro => steps.lookup timeMacro, hchosen, ?_, hquery, hleft, ?_⟩
    · intro timeMacro hstands
      exact ⟨bounds_of_windowFor hwindow (hother hstands) hstands,
        isValueOf_iff (hother hstands) (hvalues timeMacro hstands)⟩
    · rw [herrors, List.mem_append, or_iff_right unresolvedEnds_not_mem_zoneErrors]
      by_cases hnone : window = none
      · simp [hnone, hleft]
      · simp [hnone]

-- A query whose column has an alias, which it groups by, and six hours to look at.
def counted : String :=
  "SELECT $__timeField AS t, $__interval, $__timeFrom FROM m WHERE $__timeFilter GROUP BY t"

def sixHours : Cell :=
  .object
    [("time_column", .text "ts"),
     ("time_range", .object
       [("kind", .text "absolute"), ("from", .text "2024-01-01T00:00:00Z"),
        ("to", .text "2024-01-01T06:00:00Z")])]

theorem query_eq_substitute_sixHours :
    ∃ result, ∃ values : TimeMacro → Option (List Char),
      ofQuery (.atClock .default ⟨0⟩ "") (.text counted) sixHours ⟨0⟩ = .ok result ∧
      values .filter =
        some "ts >= '2024-01-01 00:00:00' AND ts <= '2024-01-01 06:00:00'".toList ∧
      values .interval = some "21s".toList ∧
      values .start = some "1704067200000".toList ∧
      result.query.toList = substitute values
        "SELECT ts AS t, $__interval, $__timeFrom FROM m WHERE $__timeFilter GROUP BY ts".toList ∧
      result.query = "SELECT ts AS t, 21s, 1704067200000 FROM m WHERE " ++
        "ts >= '2024-01-01 00:00:00' AND ts <= '2024-01-01 06:00:00' GROUP BY ts" := by
  let env : Surroundings := .atClock .default ⟨0⟩ ""
  let window : TimeBounds := ⟨⟨1704067200000000000⟩, ⟨1704088800000000000⟩⟩
  obtain ⟨context, hcontext, htest⟩ := Fault.exists_ok_of_any
    (QueryContext.ofCell Settings.default sixHours)
    (fun context => context.timeColumnWithSchema.1 = some "ts" &&
      context.timeColumnWithSchema.2.isNone && context.maxPoints = 1000 &&
      context.timeRange.bounds env.dates ⟨0⟩ (env.zoneNamed context.timeZone) = .ok window &&
      window.filter "ts" none (env.zoneNamed context.timeZone) =
        .ok "ts >= '2024-01-01 00:00:00' AND ts <= '2024-01-01 06:00:00'")
    (by decide +kernel)
  simp only [Bool.and_eq_true, decide_eq_true_eq, Option.isNone_iff_eq_none] at htest
  obtain ⟨⟨⟨⟨hname, hschema⟩, hpoints⟩, hbounds⟩, hclause⟩ := htest
  obtain ⟨result, hresult, htext⟩ := Fault.exists_ok_of_any
    (ofQuery env (.text counted) sixHours ⟨0⟩)
    (fun result => result.query = "SELECT ts AS t, 21s, 1704067200000 FROM m WHERE " ++
      "ts >= '2024-01-01 00:00:00' AND ts <= '2024-01-01 06:00:00' GROUP BY ts")
    (by decide +kernel)
  have hchosen {column : Option String} (h : IsColumnFor context counted.toList column) :
      column = some "ts" := by
    cases h with
    | named hcolumn => exact hcolumn ▸ hname
    | guessed hnone => exact absurd (hnone "ts" hname) (by decide)
    | missing hnone => exact absurd (hnone "ts" hname) (by decide)
  obtain ⟨column, found, values, hcolumn, hvalues, hquery, -, -⟩ :=
    query_eq_substitute hcontext (by decide +kernel) (by decide +kernel)
      (fun column h => Option.some.inj (hchosen h) ▸ by decide) hresult
  obtain rfl := hchosen hcolumn
  have hplaced : inColumn counted.toList (some "ts") =
      "SELECT ts AS t, $__interval, $__timeFrom FROM m WHERE $__timeFilter GROUP BY ts".toList := by
    decide +kernel
  rw [hplaced] at hvalues hquery
  obtain rfl : some window = found :=
    Except.ok.inj (hbounds.symm.trans (hvalues .filter (by decide)).1)
  have hwidth : window.interval context.maxPoints = .ok 21 := by
    rw [hpoints]
    rfl
  have hstart : IsValueOf env context "ts" (some window) .start _ := .start window
  rw [← hschema] at hclause
  rw [hschema] at hstart
  exact ⟨result, values, hresult, ((hvalues .filter (by decide)).2 _).mpr (.condition hclause),
    ((hvalues .interval (by decide)).2 _).mpr (.width hwidth),
    ((hvalues .start (by decide)).2 _).mpr hstart, hquery, of_decide_eq_true htext⟩

end Interpolation

end TimePanel
