import TimePanel.Proofs.Query.Substitution

/-! What an interpolation reports about the macros that it replaced, against the texts in which it
came upon them. -/

namespace TimePanel

open TimeMacro

namespace Substitutions

-- The text that was put in for a macro, if its replacement is reported.
def textFor (values : Substitutions) : TimeMacro → Option (List Char)
  | .filter => values.timeFilter.map String.toList
  | .field => values.timeField.map String.toList
  | .interval => values.interval.map fun seconds => (toString seconds ++ "s").toList
  | .start => values.timeFrom.map fun tick => (toString tick).toList
  | .finish => values.timeTo.map fun tick => (toString tick).toList

theorem eq_none_iff {values : Substitutions} :
    values = .none ↔ ∀ timeMacro, values.textFor timeMacro = Option.none := by
  constructor
  · rintro rfl timeMacro
    cases timeMacro <;> rfl
  · intro h
    obtain ⟨field, filter, interval, start, finish⟩ := values
    obtain rfl := Option.map_eq_none_iff.mp (h .field)
    obtain rfl := Option.map_eq_none_iff.mp (h .filter)
    obtain rfl := Option.map_eq_none_iff.mp (h .interval)
    obtain rfl := Option.map_eq_none_iff.mp (h .start)
    obtain rfl := Option.map_eq_none_iff.mp (h .finish)
    rfl

end Substitutions

namespace Interpolation

-- A text with the value for a macro put in, if there is one.
def putIn (timeMacro : TimeMacro) (value : Option (List Char)) (text : List Char) : List Char :=
  value.elim text (timeMacro.replace · text)

section

variable (context : QueryContext) (query : List Char) (values : Substitutions)

-- The text that the pass for each macro comes upon, in a run that reports the given values.
def textBefore : TimeMacro → List Char
  | .field => Sanitizer.repair query
  | .filter => withColumn context (Sanitizer.repair query)
  | .interval =>
      putIn .filter (values.textFor .filter) (withColumn context (Sanitizer.repair query))
  | .start =>
      putIn .interval (values.textFor .interval) <|
        putIn .filter (values.textFor .filter) (withColumn context (Sanitizer.repair query))
  | .finish =>
      putIn .start (values.textFor .start) <| putIn .interval (values.textFor .interval) <|
        putIn .filter (values.textFor .filter) (withColumn context (Sanitizer.repair query))

end

-- A pass that reports a value exactly if the characters of its macro stand in the text, and puts
-- what it reports in place of the macro.
structure Reports (timeMacro : TimeMacro) (before after : Draft) : Prop where
  own : (after.values.textFor timeMacro).isSome = true ↔ timeMacro.standsIn before.text = true
  others : ∀ other ≠ timeMacro, after.values.textFor other = before.values.textFor other
  text : after.text = putIn timeMacro (after.values.textFor timeMacro) before.text
  errors : after.errors = before.errors

section

variable {timeMacro : TimeMacro} {draft after : Draft}

theorem Reports.skip (hnew : draft.values.textFor timeMacro = none)
    (habsent : timeMacro.standsIn draft.text = false) : Reports timeMacro draft draft where
  own := by simp [hnew, habsent]
  others _ _ := rfl
  text := by rw [hnew, putIn, Option.elim_none]
  errors := rfl

theorem Reports.place {value : List Char} {values : Substitutions}
    (hstands : timeMacro.standsIn draft.text = true)
    (hown : values.textFor timeMacro = some value)
    (hothers : ∀ other ≠ timeMacro, values.textFor other = draft.values.textFor other) :
    Reports timeMacro draft ⟨timeMacro.replace value draft.text, values, draft.errors⟩ where
  own := by simp [hown, hstands]
  others := hothers
  text := by rw [hown, putIn, Option.elim_some]
  errors := rfl

theorem reports_filter {clause : Except Fault (Option String)}
    (hnew : draft.values.textFor .filter = none) (h : placeFilter clause draft = .ok after) :
    Reports .filter draft after := by
  rcases placeFilter_eq_ok h with ⟨habsent, rfl⟩ | ⟨hstands, found, -, rfl⟩
  · exact .skip hnew habsent
  · refine .place hstands rfl fun other hother => ?_
    cases other <;> first | rfl | exact absurd rfl hother

theorem reports_interval {interval : Except Fault Int}
    (hnew : draft.values.textFor .interval = none) (h : placeInterval interval draft = .ok after) :
    Reports .interval draft after := by
  rcases placeInterval_eq_ok h with ⟨habsent, rfl⟩ | ⟨hstands, seconds, -, rfl⟩
  · exact .skip hnew habsent
  · refine .place hstands rfl fun other hother => ?_
    cases other <;> first | rfl | exact absurd rfl hother

theorem reports_start (tick : Int) (hnew : draft.values.textFor .start = none) :
    Reports .start draft (placeStart tick draft) := by
  by_cases hstands : TimeMacro.start.standsIn draft.text = true
  · rw [placeStart, if_pos hstands]
    refine .place hstands rfl fun other hother => ?_
    cases other <;> first | rfl | exact absurd rfl hother
  · rw [placeStart, if_neg hstands]
    exact .skip hnew (by simpa using hstands)

theorem reports_finish (tick : Int) (hnew : draft.values.textFor .finish = none) :
    Reports .finish draft (placeFinish tick draft) := by
  by_cases hstands : TimeMacro.finish.standsIn draft.text = true
  · rw [placeFinish, if_pos hstands]
    refine .place hstands rfl fun other hother => ?_
    cases other <;> first | rfl | exact absurd rfl hother
  · rw [placeFinish, if_neg hstands]
    exact .skip hnew (by simpa using hstands)

end

variable {env : Surroundings} {context : QueryContext} {query : List Char} {now : Instant}
  {result : Interpolation}

-- The first pass reports the column if its macro stands in the repaired query, since a query that
-- asks for a column always gets one.
theorem columnDraft_textFor (env : Surroundings) (context : QueryContext) (query : List Char) :
    (((columnDraft env context query).values.textFor .field).isSome = true ↔
        TimeMacro.field.standsIn (Sanitizer.repair query) = true) ∧
      ∀ other ≠ .field, (columnDraft env context query).values.textFor other = none := by
  unfold columnDraft chosenColumn firstDraft
  by_cases hstands : TimeMacro.field.standsIn (Sanitizer.repair query) = true
  · cases hcolumn : columnFor context (Sanitizer.repair query) with
    | none => simp [columnFor, hstands] at hcolumn
    | some column =>
        refine ⟨by simp [placeColumn, hstands, Substitutions.textFor], fun other hother => ?_⟩
        cases other <;> first | rfl | exact absurd rfl hother
  · have hnothing (column : Option String) (errors : List String) :
        (placeColumn column ⟨Sanitizer.repair query, .none, errors⟩).values = .none := by
      cases column with
      | none => rfl
      | some column =>
          simp only [placeColumn, if_neg hstands]
          rfl
    rw [hnothing]
    refine ⟨by simp [hstands, Substitutions.textFor, Substitutions.none], fun other _ => ?_⟩
    cases other <;> rfl

theorem unresolvedEnds_not_mem_problems (query : List Char) :
    unresolvedEnds ∉ Sanitizer.problems query := by
  rw [Sanitizer.problems, List.mem_map]
  rintro ⟨misuse, -, hmessage⟩
  cases misuse <;> exact absurd hmessage (by decide)

-- The passes for the ends of the range report nothing without a window.
theorem placeEnds_reports (ends : Option (Int × Int)) {draft after : Draft}
    (hnew : draft.values.textFor .start = none ∧ draft.values.textFor .finish = none)
    (hafter : after = placeEnds ends draft) :
    (∀ other, other ≠ .start → other ≠ .finish →
      after.values.textFor other = draft.values.textFor other) ∧
    ((after.values.textFor .start).isSome = true ↔
      TimeMacro.start.standsIn draft.text = true ∧ ends ≠ none) ∧
    ((after.values.textFor .finish).isSome = true ↔
      TimeMacro.finish.standsIn (putIn .start (after.values.textFor .start) draft.text) = true ∧
        ends ≠ none) ∧
    after.text = putIn .finish (after.values.textFor .finish)
      (putIn .start (after.values.textFor .start) draft.text) := by
  cases ends with
  | none =>
      have hvalues : after.values = draft.values := by
        rw [hafter, placeEnds]
        split <;> rfl
      have htext : after.text = draft.text := by rw [hafter, placeEnds_none_text]
      simp [hvalues, htext, hnew.1, hnew.2, putIn]
  | some ends =>
      rw [placeEnds_some] at hafter
      have hstart := reports_start ends.1 hnew.1
      have hfinish := reports_finish ends.2
        (hstart.others .finish (by decide) ▸ hnew.2 : (placeStart ends.1 draft).values.textFor
          .finish = none)
      rw [← hafter] at hfinish
      have hsame := hfinish.others .start (by decide)
      refine ⟨fun other hother hother' => ?_, ?_, ?_, ?_⟩
      · rw [hfinish.others other hother', hstart.others other hother]
      · rw [hsame, hstart.own]
        simp
      · rw [hsame, ← hstart.text, hfinish.own]
        simp
      · rw [hsame, ← hstart.text, hfinish.text]

theorem hasTimeVariables_eq (h : ofContext env context query now = .ok result) :
    result.hasTimeVariables = anyIn (Sanitizer.repair query) := by
  unfold ofContext at h
  obtain ⟨window, -, h⟩ := Fault.bind_eq_ok_iff.mp h
  obtain ⟨filtered, -, h⟩ := Fault.bind_eq_ok_iff.mp h
  obtain ⟨spaced, -, h⟩ := Fault.bind_eq_ok_iff.mp h
  obtain rfl := Fault.pure_eq_ok_iff.mp h
  rfl

-- What is reported, told from the texts between the passes: each macro whose characters stand in
-- the text that its pass comes upon, but no end of the range without a window.
structure IsReport (context : QueryContext) (query : List Char) (window : Option TimeBounds)
    (result : Interpolation) : Prop where
  textFor : ∀ timeMacro, (result.interpolated.textFor timeMacro).isSome = true ↔
    timeMacro.standsIn (textBefore context query result.interpolated timeMacro) = true ∧
      (timeMacro = .start ∨ timeMacro = .finish → window ≠ none)
  outcome : result.query.toList = putIn .finish (result.interpolated.textFor .finish)
    (textBefore context query result.interpolated .finish)
  unresolved : unresolvedEnds ∈ result.errors ↔ window = none ∧
    (TimeMacro.start.standsIn (textBefore context query result.interpolated .start) = true ∨
      TimeMacro.finish.standsIn (textBefore context query result.interpolated .start) = true)
  hasTimeVariables : result.hasTimeVariables = anyIn (Sanitizer.repair query)

-- What the passes for the filter and the interval report, and that they report nothing else.
theorem reports_first {clause : Except Fault (Option String)} {interval : Except Fault Int}
    {filtered spaced : Draft}
    (hfiltered : placeFilter clause (columnDraft env context query) = .ok filtered)
    (hspaced : placeInterval interval filtered = .ok spaced) :
    Reports .filter (columnDraft env context query) filtered ∧ Reports .interval filtered spaced ∧
      (∀ other, other ≠ .filter → other ≠ .interval →
        spaced.values.textFor other = (columnDraft env context query).values.textFor other) ∧
      spaced.values.textFor .start = none ∧ spaced.values.textFor .finish = none := by
  obtain ⟨-, hnothing⟩ := columnDraft_textFor env context query
  have hfilter := reports_filter (hnothing .filter (by decide)) hfiltered
  have hinterval := reports_interval
    (hfilter.others .interval (by decide) ▸ hnothing .interval (by decide)) hspaced
  have hkept : ∀ other, other ≠ .filter → other ≠ .interval →
      spaced.values.textFor other = (columnDraft env context query).values.textFor other := by
    intro other hother hother'
    rw [hinterval.others other hother', hfilter.others other hother]
  refine ⟨hfilter, hinterval, hkept, ?_, ?_⟩
  · rw [hkept .start (by decide) (by decide), hnothing .start (by decide)]
  · rw [hkept .finish (by decide) (by decide), hnothing .finish (by decide)]

theorem exists_isReport (h : ofContext env context query now = .ok result) :
    ∃ window,
      windowFor env context now (withColumn context (Sanitizer.repair query)) = .ok window ∧
      IsReport context query window result := by
  obtain ⟨window, filtered, spaced, hwindow, hfiltered, hspaced, hquery, hvalues, herrors⟩ :=
    ofContext_eq_ok h
  have hfield := (columnDraft_textFor env context query).1
  obtain ⟨hfilter, hinterval, hkept, hnew⟩ := reports_first hfiltered hspaced
  obtain ⟨hothers, hstart, hfinish, htext⟩ := placeEnds_reports
    (endsFor context (columnName context query) window) hnew rfl
  rw [← hvalues] at hothers hstart hfinish htext
  have hends : endsFor context (columnName context query) window ≠ none ↔ window ≠ none := by
    simp [endsFor]
  -- The reported values tell the texts between the passes.
  have hplaced := columnDraft_text env context query
  have hfilterValue : result.interpolated.textFor .filter = filtered.values.textFor .filter := by
    rw [hothers .filter (by decide) (by decide), hinterval.others .filter (by decide)]
  have hfilteredText : textBefore context query result.interpolated .interval = filtered.text := by
    rw [textBefore, hfilterValue, ← hplaced, ← hfilter.text]
  have hspacedText : textBefore context query result.interpolated .start = spaced.text := by
    rw [hinterval.text, ← hothers .interval (by decide) (by decide), ← hfilteredText]
    rfl
  have hfinishText : textBefore context query result.interpolated .finish =
      putIn .start (result.interpolated.textFor .start) spaced.text := by
    rw [← hspacedText]
    rfl
  have hreports : ∀ timeMacro, (result.interpolated.textFor timeMacro).isSome = true ↔
      timeMacro.standsIn (textBefore context query result.interpolated timeMacro) = true ∧
        (timeMacro = .start ∨ timeMacro = .finish → window ≠ none) := by
    intro timeMacro
    cases timeMacro with
    | field =>
        rw [hothers .field (by decide) (by decide), hkept .field (by decide) (by decide), hfield]
        simp [textBefore]
    | filter =>
        rw [hfilterValue, hfilter.own, hplaced]
        simp [textBefore]
    | interval =>
        rw [hothers .interval (by decide) (by decide), hinterval.own, hfilteredText]
        simp
    | start =>
        rw [hstart, hends, hspacedText]
        simp
    | finish =>
        rw [hfinish, hends, hfinishText]
        simp
  refine ⟨window, hplaced ▸ hwindow, hreports, ?_, ?_, hasTimeVariables_eq h⟩
  · rw [hquery, String.toList_ofList, htext, hfinishText]
  · have hsilent : unresolvedEnds ∉ spaced.errors := by
      rw [hinterval.errors, hfilter.errors, columnDraft, placeColumn_errors, firstDraft,
        List.mem_append, not_or]
      exact ⟨unresolvedEnds_not_mem_problems query, unresolvedEnds_not_mem_zoneErrors⟩
    have hnone : (endsFor context (columnName context query) window).isNone = true ↔
        window = none := by simp [endsFor]
    rw [herrors, placeEnds_errors, List.mem_append, or_iff_right hsilent, hspacedText, ← hnone]
    split
    · next hcase => exact iff_of_true (List.mem_singleton_self _) hcase
    · next hcase => exact iff_of_false List.not_mem_nil hcase

-- A column without dollar signs brings none into what is reported after it.
theorem dollar_not_mem_textFor (h : ofContext env context query now = .ok result)
    (hcolumn : '$' ∉ (columnName context query).toList) {timeMacro : TimeMacro}
    (hother : timeMacro ≠ .field) {value : List Char}
    (hvalue : result.interpolated.textFor timeMacro = some value) : '$' ∉ value := by
  cases timeMacro with
  | field => exact absurd rfl hother
  | filter =>
      obtain ⟨window, filtered, spaced, -, hfiltered, hspaced, -, hvalues, -⟩ := ofContext_eq_ok h
      obtain ⟨clause, hclause, rfl⟩ := Option.map_eq_some_iff.mp hvalue
      rw [hvalues, placeEnds_timeFilter, (placeInterval_keeps hspaced).1] at hclause
      rcases placeFilter_eq_ok hfiltered with ⟨-, rfl⟩ | ⟨-, found, hfound, rfl⟩
      · have hnothing := (columnDraft_textFor env context query).2 .filter (by decide)
        rw [Substitutions.textFor, hclause] at hnothing
        cases hnothing
      · obtain rfl : found.getD "1=1" = clause := Option.some.inj hclause
        exact dollar_not_mem_clause hcolumn hfound
  | interval =>
      obtain ⟨seconds, -, rfl⟩ := Option.map_eq_some_iff.mp hvalue
      rw [String.toList_append, List.mem_append, not_or]
      exact ⟨Calendar.dollar_not_mem_int seconds, by decide⟩
  | start =>
      obtain ⟨tick, -, rfl⟩ := Option.map_eq_some_iff.mp hvalue
      exact Calendar.dollar_not_mem_int tick
  | finish =>
      obtain ⟨tick, -, rfl⟩ := Option.map_eq_some_iff.mp hvalue
      exact Calendar.dollar_not_mem_int tick

-- The characters of a query; what is no text has none.
def charsOf : Cell → List Char
  | .text text => text.toList
  | _ => []

-- Nothing is found in an empty query, and nothing is said about it.
theorem withColumn_nil (context : QueryContext) :
    withColumn context (Sanitizer.repair []) = [] := by
  have hrepair : Sanitizer.repair [] = [] := rfl
  rw [hrepair, withColumn]
  cases columnFor context [] <;> rfl

theorem isReport_invalidQuery (context : QueryContext) :
    IsReport context [] none invalidQuery := by
  have hplaced := withColumn_nil context
  have hbefore (timeMacro : TimeMacro) : textBefore context [] .none timeMacro = [] := by
    cases timeMacro <;> first | exact hplaced | rfl
  have habsent (timeMacro : TimeMacro) : timeMacro.standsIn [] = false := by
    cases timeMacro <;> rfl
  have hsilent : unresolvedEnds ∉ invalidQuery.errors := by decide
  constructor
  · intro timeMacro
    have hnothing : invalidQuery.interpolated.textFor timeMacro = none :=
      Substitutions.eq_none_iff.mp rfl timeMacro
    rw [hnothing, invalidQuery, hbefore, habsent]
    simp
  · rw [invalidQuery, hbefore]
    rfl
  · rw [invalidQuery, hbefore, habsent, habsent]
    exact iff_of_false hsilent (by simp)
  · rfl

theorem inContext_eq {query : Cell} (h : charsOf query ≠ []) :
    inContext env query context now = ofContext env context (charsOf query) now := by
  cases query with
  | text text =>
      have hsome : text.isEmpty = false := by
        rw [← Bool.not_eq_true, String.isEmpty_iff, ← String.toList_eq_nil_iff]
        exact h
      simp [inContext, hsome, charsOf]
  | _ => exact absurd rfl h

theorem inContext_of_empty {query : Cell} (h : charsOf query = []) :
    inContext env query context now = .ok invalidQuery := by
  cases query with
  | text text =>
      have hnone : text.isEmpty = true := by
        rw [String.isEmpty_iff, ← String.toList_eq_nil_iff]
        exact h
      simp [inContext, hnone]
  | _ => rfl

theorem exists_isReport_query {given query : Cell}
    (hcontext : QueryContext.ofCell env.settings given = .ok context)
    (h : ofQuery env query given now = .ok result) :
    ∃ window,
      windowFor env context now (withColumn context (Sanitizer.repair (charsOf query))) =
        .ok window ∧
      IsReport context (charsOf query) window result ∧
      ('$' ∉ (columnName context (charsOf query)).toList → ∀ timeMacro ≠ .field, ∀ value,
        result.interpolated.textFor timeMacro = some value → '$' ∉ value) := by
  simp only [ofQuery, hcontext] at h
  by_cases hempty : charsOf query = []
  · rw [inContext_of_empty hempty] at h
    cases h
    rw [hempty, withColumn_nil]
    refine ⟨none, rfl, isReport_invalidQuery context, fun _ timeMacro _ value hvalue => ?_⟩
    have hnothing : invalidQuery.interpolated.textFor timeMacro = none :=
      Substitutions.eq_none_iff.mp rfl timeMacro
    rw [hnothing] at hvalue
    cases hvalue
  · rw [inContext_eq hempty] at h
    obtain ⟨window, hwindow, hreport⟩ := exists_isReport h
    exact ⟨window, hwindow, hreport, fun hcolumn _ hother _ =>
      dollar_not_mem_textFor h hcolumn hother⟩

-- Whether all that a run reports was replaced: each macro stood as a whole word in the text that
-- its pass came upon.
def ReportsReplaced (context : QueryContext) (query : List Char) (result : Interpolation) : Prop :=
  ∀ timeMacro, (result.interpolated.textFor timeMacro).isSome = true →
    timeMacro.occursIn (textBefore context query result.interpolated timeMacro) = true

-- A text in which every dollar sign begins a macro that stands alone.
def IsApart (text : List Char) : Prop :=
  ∃ pieces, Piece.Delimited pieces ∧ Piece.textOf pieces = text

theorem IsApart.occursIn {text : List Char} (h : IsApart text) {timeMacro : TimeMacro}
    (hstands : timeMacro.standsIn text = true) : timeMacro.occursIn text = true := by
  obtain ⟨pieces, hpieces, rfl⟩ := h
  exact Piece.occursIn_textOf hpieces ((Piece.standsIn_textOf hpieces).mp hstands)

theorem IsApart.putIn {text : List Char} (h : IsApart text) (timeMacro : TimeMacro)
    {value : Option (List Char)} (hvalue : ∀ chars, value = some chars → '$' ∉ chars) :
    IsApart (putIn timeMacro value text) := by
  obtain ⟨pieces, hpieces, rfl⟩ := h
  cases value with
  | none => exact ⟨pieces, hpieces, rfl⟩
  | some chars =>
      exact ⟨_, Piece.delimited_fill_only timeMacro (hvalue chars rfl) hpieces,
        (Piece.replace_textOf hpieces timeMacro chars).symm⟩

-- Where every dollar sign of the query begins a macro that stands alone, and no value brings in
-- another one, all that is reported was replaced.
theorem reportsReplaced_of_isDelimited {window : Option TimeBounds}
    (h : IsReport context query window result)
    (hdelimited : isDelimited (Sanitizer.repair query) = true)
    (hcolumn : ∀ column, columnFor context (Sanitizer.repair query) = some column →
      '$' ∉ column.toList)
    (hvalues : ∀ timeMacro ≠ .field, ∀ value,
      result.interpolated.textFor timeMacro = some value → '$' ∉ value) :
    ReportsReplaced context query result := by
  obtain ⟨pieces, hpieces, hplaced, -⟩ := exists_pieces_withColumn hdelimited hcolumn
  have hfirst : IsApart (Sanitizer.repair query) := Piece.exists_pieces hdelimited
  have hfilter : IsApart (withColumn context (Sanitizer.repair query)) := ⟨pieces, hpieces, hplaced⟩
  have hinterval := hfilter.putIn .filter (hvalues .filter (by decide))
  have hstart := hinterval.putIn .interval (hvalues .interval (by decide))
  have hfinish := hstart.putIn .start (hvalues .start (by decide))
  intro timeMacro hreported
  have hstands := ((h.textFor timeMacro).mp hreported).1
  cases timeMacro with
  | field => exact hfirst.occursIn hstands
  | filter => exact hfilter.occursIn hstands
  | interval => exact hinterval.occursIn hstands
  | start => exact hstart.occursIn hstands
  | finish => exact hfinish.occursIn hstands

-- Where no macro is replaced, the aliases of a column without dollar signs bring none in.
theorem standsIn_withColumn {text : List Char} (hnone : anyIn text = false)
    (hcolumn : ∀ column, columnFor context text = some column → '$' ∉ column.toList)
    (timeMacro : TimeMacro) :
    timeMacro.standsIn (withColumn context text) = timeMacro.standsIn text := by
  unfold withColumn
  cases hchosen : columnFor context text with
  | none => rfl
  | some column =>
      have hfield : TimeMacro.field.replace column.toList text = text :=
        Text.replaceAll_of_not_occurs (not_occurs_of_not_anyIn hnone _ _)
      rw [Bool.eq_iff_iff]
      dsimp only
      rw [hfield, standsIn_iff, standsIn_iff]
      exact ⟨TimeAlias.infix_of_resolveAll (hcolumn column hchosen),
        TimeAlias.infix_resolveAll column.toList⟩

-- Without macros in the query nothing is reported, and no end of a range found missing, exactly if
-- the names of macros do not even stand in longer words.
theorem says_nothing_iff {window : Option TimeBounds} (h : IsReport context query window result)
    (hnone : result.hasTimeVariables = false)
    (hcolumn : ∀ column, columnFor context (Sanitizer.repair query) = some column →
      '$' ∉ column.toList) :
    result.interpolated = .none ∧ unresolvedEnds ∉ result.errors ↔
      ∀ timeMacro : TimeMacro, timeMacro.standsIn (Sanitizer.repair query) = false := by
  rw [h.hasTimeVariables] at hnone
  have hplaced := standsIn_withColumn hnone hcolumn
  have hreports := h.textFor
  have hunresolved := h.unresolved
  constructor
  · rintro ⟨hvalues, hsilent⟩ timeMacro
    rw [hvalues] at hreports hunresolved
    have hends : ¬ (window = none ∧ (TimeMacro.start.standsIn (Sanitizer.repair query) = true ∨
        TimeMacro.finish.standsIn (Sanitizer.repair query) = true)) := by
      rw [← hplaced, ← hplaced]
      exact fun hfound => hsilent (hunresolved.mpr hfound)
    have hown : ¬ (timeMacro.standsIn (Sanitizer.repair query) = true ∧
        (timeMacro = .start ∨ timeMacro = .finish → window ≠ none)) := by
      intro hfound
      have hbefore : timeMacro.standsIn (textBefore context query .none timeMacro) = true := by
        cases timeMacro with
        | field => exact hfound.1
        | _ => exact (hplaced _).trans hfound.1
      have hreported := (hreports timeMacro).mpr ⟨hbefore, hfound.2⟩
      rw [Substitutions.eq_none_iff.mp rfl timeMacro] at hreported
      cases hreported
    rw [← Bool.not_eq_true]
    intro hstands
    by_cases hwindow : window = none
    · cases timeMacro with
      | start => exact hends ⟨hwindow, .inl hstands⟩
      | finish => exact hends ⟨hwindow, .inr hstands⟩
      | _ => exact hown ⟨hstands, by simp⟩
    · exact hown ⟨hstands, fun _ => hwindow⟩
  · intro habsent
    have hskip (timeMacro : TimeMacro) (hbefore : timeMacro.standsIn
        (textBefore context query result.interpolated timeMacro) = false) :
        result.interpolated.textFor timeMacro = none := by
      rw [← Option.not_isSome_iff_eq_none, hreports timeMacro, hbefore]
      simp
    have hwithout (timeMacro : TimeMacro) :
        timeMacro.standsIn (withColumn context (Sanitizer.repair query)) = false := by
      rw [hplaced, habsent]
    have hfield := hskip .field (habsent .field)
    have hfilter := hskip .filter (hwithout .filter)
    have hspaced : textBefore context query result.interpolated .interval =
        withColumn context (Sanitizer.repair query) := by
      rw [textBefore, hfilter]
      rfl
    have hinterval := hskip .interval (by rw [hspaced, hwithout])
    have hends : textBefore context query result.interpolated .start =
        withColumn context (Sanitizer.repair query) := by
      rw [textBefore, hfilter, hinterval]
      rfl
    have hstart := hskip .start (by rw [hends, hwithout])
    have hlast : textBefore context query result.interpolated .finish =
        withColumn context (Sanitizer.repair query) := by
      rw [textBefore, hfilter, hinterval, hstart]
      rfl
    have hfinish := hskip .finish (by rw [hlast, hwithout])
    refine ⟨Substitutions.eq_none_iff.mpr fun timeMacro => ?_, ?_⟩
    · cases timeMacro <;> assumption
    · rw [hunresolved, hends, hwithout, hwithout]
      simp

-- A run reports exactly the macros whose names stand in the texts that their passes come upon, even
-- inside longer words, where nothing is replaced. So what is reported was replaced exactly if
-- each of these names stands there as a whole word as well, and a query without macros is reported
-- to have none exactly if their names stand nowhere in it.
theorem reportsReplaced_iff {given query : Cell}
    (hcontext : QueryContext.ofCell env.settings given = .ok context)
    (h : ofQuery env query given now = .ok result) :
    ∃ window,
      windowFor env context now (withColumn context (Sanitizer.repair (charsOf query))) =
        .ok window ∧
      IsReport context (charsOf query) window result ∧
      (∀ timeMacro : TimeMacro, timeMacro.occursIn
          (textBefore context (charsOf query) result.interpolated timeMacro) = false →
        ∀ value, timeMacro.replace value
          (textBefore context (charsOf query) result.interpolated timeMacro) =
            textBefore context (charsOf query) result.interpolated timeMacro) ∧
      (ReportsReplaced context (charsOf query) result ↔
        ∀ timeMacro : TimeMacro, (timeMacro = .start ∨ timeMacro = .finish → window ≠ none) →
          timeMacro.standsIn
            (textBefore context (charsOf query) result.interpolated timeMacro) = true →
          timeMacro.occursIn
            (textBefore context (charsOf query) result.interpolated timeMacro) = true) ∧
      ((∀ column, columnFor context (Sanitizer.repair (charsOf query)) = some column →
          '$' ∉ column.toList) →
        (isDelimited (Sanitizer.repair (charsOf query)) = true →
          ReportsReplaced context (charsOf query) result) ∧
        (result.hasTimeVariables = false →
          (result.interpolated = .none ∧ unresolvedEnds ∉ result.errors ↔
            ∀ timeMacro : TimeMacro,
              timeMacro.standsIn (Sanitizer.repair (charsOf query)) = false))) := by
  obtain ⟨window, hwindow, hreport, hvalues⟩ := exists_isReport_query hcontext h
  refine ⟨window, hwindow, hreport, fun _ hoccurs value => replace_of_not_occursIn value hoccurs,
    ?_, fun hcolumn => ⟨fun hdelimited => ?_, fun hnone => says_nothing_iff hreport hnone hcolumn⟩⟩
  · constructor
    · intro hall timeMacro hends hstands
      exact hall timeMacro ((hreport.textFor timeMacro).mpr ⟨hstands, hends⟩)
    · intro hall timeMacro hreported
      obtain ⟨hstands, hends⟩ := (hreport.textFor timeMacro).mp hreported
      exact hall timeMacro hends hstands
  · have hname : '$' ∉ (columnName context (charsOf query)).toList := by
      rw [columnName, chosenColumn]
      cases hchosen : columnFor context (Sanitizer.repair (charsOf query)) with
      | none => decide
      | some column => exact hcolumn column hchosen
    exact reportsReplaced_of_isDelimited hreport hdelimited hcolumn (hvalues hname)

-- A query whose column has an alias, which the query groups by.
def aliased : String :=
  "SELECT $__timeField AS t, $__interval FROM m WHERE $__timeFilter GROUP BY t"

theorem reportsReplaced_iff_aliased :
    ∃ context result,
      ofQuery (.atClock .default ⟨0⟩ "") (.text aliased) (.object [("time_column", .text "ts")])
        ⟨0⟩ = .ok result ∧
      result.interpolated.textFor .field = some "ts".toList ∧
      ReportsReplaced context aliased.toList result := by
  obtain ⟨context, hcontext, hchosen⟩ := Fault.exists_ok_of_any
    (QueryContext.ofCell Settings.default (.object [("time_column", .text "ts")]))
    (fun context => columnFor context (Sanitizer.repair aliased.toList) = some "ts")
    (by decide +kernel)
  obtain ⟨result, hresult, hfield⟩ := Fault.exists_ok_of_any
    (ofQuery (.atClock .default ⟨0⟩ "") (.text aliased) (.object [("time_column", .text "ts")]) ⟨0⟩)
    (fun result => result.interpolated.textFor .field = some "ts".toList) (by decide +kernel)
  have hfree : ∀ column, columnFor context (Sanitizer.repair aliased.toList) = some column →
      '$' ∉ column.toList := by
    intro column hcolumn
    rw [of_decide_eq_true hchosen] at hcolumn
    cases hcolumn
    decide
  obtain ⟨-, -, -, -, -, hreplaced⟩ := reportsReplaced_iff hcontext hresult
  exact ⟨context, result, hresult, of_decide_eq_true hfield,
    (hreplaced hfree).1 (by decide +kernel)⟩

-- A query that has the names of two macros at the beginning of longer words only.
def unrelated : String := "SELECT $__timeFilterX, $__timeFromY FROM t"

-- It is left as it is and has no macros, but a replacement is reported, and a missing end of the
-- range as well.
theorem reports_of_longer_words :
    ∃ context result, QueryContext.ofCell Settings.default (.object []) = .ok context ∧
      ofQuery (.atClock .default ⟨0⟩ "") (.text unrelated) (.object []) ⟨0⟩ = .ok result ∧
      result.query = unrelated ∧ result.hasTimeVariables = false ∧
      result.interpolated.textFor .filter = some "1=1".toList ∧ unresolvedEnds ∈ result.errors ∧
      ¬ ReportsReplaced context unrelated.toList result := by
  obtain ⟨context, hcontext, hplaced⟩ := Fault.exists_ok_of_any
    (QueryContext.ofCell Settings.default (.object []))
    (fun context => TimeMacro.filter.occursIn
      (withColumn context (Sanitizer.repair unrelated.toList)) = false) (by decide +kernel)
  obtain ⟨result, hresult, htest⟩ := Fault.exists_ok_of_any
    (ofQuery (.atClock .default ⟨0⟩ "") (.text unrelated) (.object []) ⟨0⟩)
    (fun result => result.query = unrelated && !result.hasTimeVariables &&
      result.interpolated.textFor .filter = some "1=1".toList &&
      unresolvedEnds ∈ result.errors) (by decide +kernel)
  simp only [Bool.and_eq_true, Bool.not_eq_true', decide_eq_true_eq] at htest
  obtain ⟨⟨⟨hquery, hnone⟩, hreported⟩, herror⟩ := htest
  refine ⟨context, result, hcontext, hresult, hquery, hnone, hreported, herror, fun hall => ?_⟩
  have hoccurs := hall .filter (by rw [hreported, Option.isSome_some])
  rw [textBefore, of_decide_eq_true hplaced] at hoccurs
  cases hoccurs

end Interpolation

end TimePanel
