import TimePanel.Proofs.Fault
import TimePanel.Proofs.Query.Alias
import TimePanel.Query.Interpolation

/-! The passes over a query, each on its own, and the run that is made of them. -/

namespace TimePanel

namespace Sanitizer

open Text

-- A query without problems stays as it is.
theorem repair_of_problems_eq_nil {query : List Char} (h : problems query = []) :
    repair query = query := by
  have hnone (misuse : Misuse) : misuse.repair query = query := by
    apply replaceAll_of_not_occurs
    have hall : misuse ∈ Misuse.all := by cases misuse <;> decide
    have hmem : misuse ∉ misuses query := by simp [List.map_eq_nil_iff.mp h]
    simpa [misuses, hall, Misuse.occursIn] using hmem
  rw [repair, repairFilter, hnone .call, hnone .quotes, hnone .blanks, hnone .atSign]

end Sanitizer

namespace TimeBounds

-- A bound from below and one from above are more than a condition that always holds.
theorem condition_ne_everything (column low high : String) :
    condition column low high ≠ "1=1" := by
  intro h
  have hlength := congrArg (·.toList.length) h
  simp [condition, String.toList_append] at hlength
  omega

theorem exists_of_filter_eq_ok {bounds : TimeBounds} {column clause : String}
    {schema : Option ColumnDescriptor} {zone : Zone}
    (h : bounds.filter column schema zone = .ok clause) :
    ∃ low high, clause = condition column low high := by
  unfold filter at h
  dsimp only at h
  split at h
  · exact ⟨_, _, (Fault.pure_eq_ok_iff.mp h).symm⟩
  · obtain ⟨low, -, h⟩ := Fault.bind_eq_ok_iff.mp h
    obtain ⟨high, -, h⟩ := Fault.bind_eq_ok_iff.mp h
    exact ⟨_, _, (Fault.pure_eq_ok_iff.mp h).symm⟩

end TimeBounds

namespace TimeMacro

open Text

-- Where the characters of a macro stand nowhere, nothing is replaced.
theorem replace_of_not_standsIn {timeMacro : TimeMacro} {text : List Char} (value : List Char)
    (h : timeMacro.standsIn text = false) : timeMacro.replace value text = text := by
  apply replaceAll_of_not_occurs
  rw [← Bool.not_eq_true]
  intro hoccurs
  obtain ⟨start, rest, rfl, -, hr⟩ := exists_of_occurs hoccurs
  obtain ⟨hit, hhit⟩ := Option.isSome_iff_exists.mp hr
  obtain ⟨after, rfl, -⟩ := recognise_eq_some_iff.mp hhit
  rw [← Bool.not_eq_true, standsIn_iff] at h
  exact h ⟨start, after, by simp⟩

-- Putting a value in place of one macro keeps the others.
theorem standsIn_replace {timeMacro other : TimeMacro} (hne : timeMacro ≠ other)
    {text : List Char} (value : List Char) (h : other.standsIn text = true) :
    other.standsIn (timeMacro.replace value text) = true :=
  standsIn_iff.mpr (infix_replaceAll other (recognise_endsBefore timeMacro value)
    (recognise_passes hne value) (standsIn_iff.mp h))

end TimeMacro

namespace Interpolation

open TimeMacro

theorem placeColumn_text (column : String) (draft : Draft) :
    (placeColumn (some column) draft).text =
      TimeAlias.resolveAll (TimeMacro.field.replace column.toList draft.text) column.toList := by
  by_cases hused : TimeMacro.field.standsIn draft.text = true
  · simp [placeColumn, hused]
  · simp [placeColumn, hused, replace_of_not_standsIn _ (Bool.not_eq_true _ ▸ hused)]

theorem placeColumn_errors (column : Option String) (draft : Draft) :
    (placeColumn column draft).errors = draft.errors := by
  cases column <;> rfl

-- The other macros outlast the time column.
theorem standsIn_placeColumn {timeMacro : TimeMacro} (hne : timeMacro ≠ .field)
    (column : Option String) {draft : Draft} (h : timeMacro.standsIn draft.text = true) :
    timeMacro.standsIn (placeColumn column draft).text = true := by
  cases column with
  | none => exact h
  | some column =>
      rw [placeColumn_text, standsIn_iff]
      exact TimeAlias.infix_resolveAll _ (standsIn_iff.mp (standsIn_replace hne.symm _ h))

-- The draft once the filter has been replaced by a clause.
def withClause (clause : String) (draft : Draft) : Draft :=
  { draft with
    text := TimeMacro.filter.replace clause.toList draft.text
    values := { draft.values with timeFilter := some clause } }

theorem placeFilter_eq_ok {clause : Except Fault (Option String)} {draft filtered : Draft}
    (h : placeFilter clause draft = .ok filtered) :
    TimeMacro.filter.standsIn draft.text = false ∧ filtered = draft ∨
      TimeMacro.filter.standsIn draft.text = true ∧
        ∃ found, clause = .ok found ∧ filtered = withClause (found.getD "1=1") draft := by
  unfold placeFilter at h
  split at h
  · next hstands =>
    obtain ⟨found, hfound, h⟩ := Fault.bind_eq_ok_iff.mp h
    exact Or.inr ⟨hstands, found, hfound, (Fault.pure_eq_ok_iff.mp h).symm⟩
  · next hstands =>
    exact Or.inl ⟨by simpa using hstands, (Fault.pure_eq_ok_iff.mp h).symm⟩

theorem placeFilter_errors {clause : Except Fault (Option String)} {draft filtered : Draft}
    (h : placeFilter clause draft = .ok filtered) : filtered.errors = draft.errors := by
  rcases placeFilter_eq_ok h with ⟨-, rfl⟩ | ⟨-, found, -, rfl⟩
  · rfl
  · rfl

-- The draft once the interval has been replaced by a number of seconds.
def withInterval (seconds : Int) (draft : Draft) : Draft :=
  { draft with
    text := TimeMacro.interval.replace (toString seconds ++ "s").toList draft.text
    values := { draft.values with interval := some seconds } }

theorem placeInterval_eq_ok {interval : Except Fault Int} {draft spaced : Draft}
    (h : placeInterval interval draft = .ok spaced) :
    TimeMacro.interval.standsIn draft.text = false ∧ spaced = draft ∨
      TimeMacro.interval.standsIn draft.text = true ∧
        ∃ seconds, interval = .ok seconds ∧ spaced = withInterval seconds draft := by
  unfold placeInterval at h
  split at h
  · next hstands =>
    obtain ⟨seconds, hseconds, h⟩ := Fault.bind_eq_ok_iff.mp h
    exact Or.inr ⟨hstands, seconds, hseconds, (Fault.pure_eq_ok_iff.mp h).symm⟩
  · next hstands =>
    exact Or.inl ⟨by simpa using hstands, (Fault.pure_eq_ok_iff.mp h).symm⟩

theorem placeInterval_keeps {interval : Except Fault Int} {draft spaced : Draft}
    (h : placeInterval interval draft = .ok spaced) :
    spaced.values.timeFilter = draft.values.timeFilter ∧ spaced.errors = draft.errors := by
  rcases placeInterval_eq_ok h with ⟨-, rfl⟩ | ⟨-, seconds, -, rfl⟩
  · exact ⟨rfl, rfl⟩
  · exact ⟨rfl, rfl⟩

theorem placeEnds_timeFilter (ends : Option (Int × Int)) (draft : Draft) :
    (placeEnds ends draft).values.timeFilter = draft.values.timeFilter := by
  have hstart (tick : Int) (draft : Draft) :
      (placeStart tick draft).values.timeFilter = draft.values.timeFilter := by
    unfold placeStart
    split <;> rfl
  have hfinish (tick : Int) (draft : Draft) :
      (placeFinish tick draft).values.timeFilter = draft.values.timeFilter := by
    unfold placeFinish
    split <;> rfl
  unfold placeEnds
  split
  · cases ends with
    | none => rfl
    | some ends => rw [hfinish, hstart]
  · rfl

-- Ends that cannot be resolved are the only error of the passes.
theorem placeEnds_errors (ends : Option (Int × Int)) (draft : Draft) :
    (placeEnds ends draft).errors = draft.errors ++
      if ends.isNone ∧ (TimeMacro.start.standsIn draft.text ∨ TimeMacro.finish.standsIn draft.text)
      then [unresolvedEnds] else [] := by
  have hstart (tick : Int) (draft : Draft) : (placeStart tick draft).errors = draft.errors := by
    unfold placeStart
    split <;> rfl
  have hfinish (tick : Int) (draft : Draft) : (placeFinish tick draft).errors = draft.errors := by
    unfold placeFinish
    split <;> rfl
  unfold placeEnds
  by_cases hstands : TimeMacro.start.standsIn draft.text ∨ TimeMacro.finish.standsIn draft.text
  · cases ends with
    | none => simp [hstands]
    | some ends => simp [hstands, hfinish, hstart]
  · simp [hstands]

section

variable {env : Surroundings} {context : QueryContext} {query : List Char} {now : Instant}
  {result : Interpolation}

-- The column that is used for a query, once its misused macros are repaired.
def chosenColumn (context : QueryContext) (query : List Char) : Option String :=
  columnFor context (Sanitizer.repair query)

-- The name that values are computed for, where a query has no column as well.
def columnName (context : QueryContext) (query : List Char) : String :=
  (chosenColumn context query).getD TimeColumn.fallback

-- The draft that the passes over a query begin with, and the one that holds the time column.
def firstDraft (env : Surroundings) (context : QueryContext) (query : List Char) : Draft :=
  ⟨Sanitizer.repair query, .none, Sanitizer.problems query ++ zoneErrors env context⟩

def columnDraft (env : Surroundings) (context : QueryContext) (query : List Char) : Draft :=
  placeColumn (chosenColumn context query) (firstDraft env context query)

-- A run of the passes: the window that the range gives, and the drafts between the passes.
theorem ofContext_eq_ok (h : ofContext env context query now = .ok result) :
    ∃ window filtered spaced,
      windowFor env context now (columnDraft env context query).text = .ok window ∧
      placeFilter (clauseFor env context (columnName context query) window)
        (columnDraft env context query) = .ok filtered ∧
      placeInterval (intervalFor env context window) filtered = .ok spaced ∧
      result.query = String.ofList
        (placeEnds (endsFor context (columnName context query) window) spaced).text ∧
      result.interpolated =
        (placeEnds (endsFor context (columnName context query) window) spaced).values ∧
      result.errors =
        (placeEnds (endsFor context (columnName context query) window) spaced).errors := by
  unfold ofContext at h
  obtain ⟨window, hwindow, h⟩ := Fault.bind_eq_ok_iff.mp h
  obtain ⟨filtered, hfiltered, h⟩ := Fault.bind_eq_ok_iff.mp h
  obtain ⟨spaced, hspaced, h⟩ := Fault.bind_eq_ok_iff.mp h
  obtain rfl := Fault.pure_eq_ok_iff.mp h
  exact ⟨window, filtered, spaced, hwindow, hfiltered, hspaced, rfl, rfl, rfl⟩

end

end Interpolation

end TimePanel
