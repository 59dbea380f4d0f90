import TimePanel.Proofs.Query.Substitution
import TimePanel.Proofs.Query.Totality
import TimePanel.Proofs.Query.Weight
import TimePanel.Query.Preparation

/-! Preparing the outcome of a preparation once more. It stays as it is where nothing is left in it
that a preparation puts right, and for columns with plain names nowhere else. -/

namespace TimePanel

namespace Text

variable {recognise : Recogniser} {word : List Char}

-- A word is not begun by what is put in if that has none of its characters.
theorem prefix_of_replaceFrom
    (h : Turns recognise fun _ value => value ≠ [] ∧ ∀ c ∈ value, c ∉ word) (before : Option Char)
    (text : List Char) : ∀ part, (∀ c ∈ part, c ∈ word) →
      part <+: replaceFrom recognise before 0 text → part <+: text := by
  refine scan_induction h (motive := fun before text => ∀ part, (∀ c ∈ part, c ∈ word) →
    part <+: replaceFrom recognise before 0 text → part <+: text) ?_ ?_ ?_ before text
  · intro before part _ hpart
    exact hpart
  · intro before c rest hnone ih part hword hpart
    rw [replaceFrom_keep hnone] at hpart
    cases part with
    | nil => exact List.nil_prefix
    | cons d part =>
        rw [List.cons_prefix_cons] at hpart ⊢
        exact ⟨hpart.1, ih part (fun e he => hword e (List.mem_cons_of_mem _ he)) hpart.2⟩
  · rintro before taken rest value htaken ⟨hne, hother⟩ hhit ih part hword hpart
    obtain ⟨c, value, rfl⟩ := List.exists_cons_of_ne_nil hne
    rw [replaceFrom_hit htaken hhit, List.cons_append] at hpart
    cases part with
    | nil => exact List.nil_prefix
    | cons d part =>
        rw [List.cons_prefix_cons] at hpart
        exact absurd (hword d List.mem_cons_self) (hpart.1 ▸ hother c List.mem_cons_self)

theorem infix_of_replaceFrom {mark : Char} {tail : List Char}
    (h : Turns recognise fun _ value => value ≠ [] ∧ ∀ c ∈ value, c ∉ mark :: tail)
    (before : Option Char) (text : List Char) :
    mark :: tail <:+: replaceFrom recognise before 0 text → mark :: tail <:+: text := by
  refine scan_induction h (motive := fun before text =>
    mark :: tail <:+: replaceFrom recognise before 0 text → mark :: tail <:+: text)
    ?_ ?_ ?_ before text
  · intro before hinside
    exact hinside
  · intro before c rest hnone ih hinside
    have hbegins := prefix_of_replaceFrom h before (c :: rest) (mark :: tail) fun _ hc => hc
    rw [replaceFrom_keep hnone] at hbegins hinside
    rw [List.infix_cons_iff] at hinside ⊢
    exact hinside.imp hbegins ih
  · rintro before taken rest value htaken ⟨-, hother⟩ hhit ih hinside
    rw [replaceFrom_hit htaken hhit] at hinside
    have hmark : mark ∉ value := fun hmem => hother mark hmem List.mem_cons_self
    exact (ih (infix_of_infix_append hmark hinside)).trans
      (List.suffix_append taken rest).isInfix

end Text

open Text

namespace TimeMacro

-- Values of other characters than a macro has do not bring it in.
theorem standsIn_of_replace {timeMacro other : TimeMacro} {value text : List Char}
    (hne : value ≠ []) (hvalue : ∀ c ∈ value, c ∉ other.token)
    (h : other.standsIn (timeMacro.replace value text) = true) : other.standsIn text = true := by
  obtain ⟨tail, htoken, -⟩ := other.token_eq
  rw [standsIn_iff] at h ⊢
  rw [htoken] at h hvalue ⊢
  apply infix_of_replaceFrom _ none text h
  refine (timeMacro.turns_recognise value).mono ?_
  rintro _ _ ⟨-, rfl⟩
  exact ⟨hne, hvalue⟩

end TimeMacro

namespace Misuse

-- A filter that is called or quoted stands as a whole word.
theorem not_occurs_call {text : List Char} (h : TimeMacro.anyIn text = false) :
    occurs recogniseCall text = false := by
  rw [← Bool.not_eq_true]
  intro hoccurs
  obtain ⟨start, tail, rfl, -, hr⟩ := exists_of_occurs hoccurs
  obtain ⟨hit, hhit⟩ := Option.isSome_iff_exists.mp hr
  simp only [recogniseCall, Option.bind_eq_bind, Option.bind_eq_some_iff] at hhit
  obtain ⟨rest, hrest, hhit⟩ := hhit
  obtain rfl := after?_eq_some_iff.mp hrest
  have hends : rest.head?.any isWord = false := by
    cases rest with
    | nil => rfl
    | cons c rest =>
        by_cases hc : isBlank c = true
        · simpa using isWord_of_isBlank hc
        · rw [List.dropWhile_cons_of_neg hc] at hhit
          split at hhit
          · next heq =>
            cases heq
            have hbracket : isWord '(' = false := by decide
            simpa using hbracket
          · cases hhit
  rw [filterToken, TimeMacro.filter.anyIn_append start hends] at h
  cases h

theorem not_occurs_quotes {text : List Char} (h : TimeMacro.anyIn text = false) :
    occurs recogniseQuotes text = false := by
  rw [← Bool.not_eq_true]
  intro hoccurs
  obtain ⟨start, tail, rfl, -, hr⟩ := exists_of_occurs hoccurs
  obtain ⟨hit, hhit⟩ := Option.isSome_iff_exists.mp hr
  unfold recogniseQuotes at hhit
  split at hhit
  · next opening rest =>
    split at hhit
    · cases hhit
    · split at hhit
      · next closing after hafter =>
        obtain rfl := after?_eq_some_iff.mp hafter
        split at hhit
        · next hquote =>
          have hends : (closing :: after).head?.any isWord = false := by
            simp only [isQuote, Bool.or_eq_true, decide_eq_true_eq] at hquote
            have hmarks : isWord '"' = false ∧ isWord '\'' = false := by decide
            rcases hquote with rfl | rfl
            · simpa using hmarks.1
            · simpa using hmarks.2
          have hany := TimeMacro.filter.anyIn_append (start ++ [opening]) hends
          rw [List.append_assoc, List.singleton_append] at hany
          rw [filterToken, hany] at h
          cases h
        · cases hhit
      · cases hhit
  · cases hhit

end Misuse

namespace Sanitizer

-- Without macros only blanks and at signs are left to be repaired.
theorem repair_of_not_anyIn {text : List Char} (h : TimeMacro.anyIn text = false) :
    repair text = replaceEach [Misuse.recogniseBlanks, Misuse.recogniseAtSign] text := by
  have hcall : Misuse.call.repair text = text :=
    replaceAll_of_not_occurs (Misuse.not_occurs_call h)
  have hquotes : Misuse.quotes.repair text = text :=
    replaceAll_of_not_occurs (Misuse.not_occurs_quotes h)
  rw [repair, repairFilter, hcall, hquotes]
  rfl

theorem problems_eq_nil_of_not_anyIn {text : List Char} (h : TimeMacro.anyIn text = false)
    (hblanks : occurs Misuse.recogniseBlanks text = false)
    (hatSign : occurs Misuse.recogniseAtSign text = false) : problems text = [] := by
  have hcall := Misuse.not_occurs_call h
  have hquotes := Misuse.not_occurs_quotes h
  simp [problems, misuses, Misuse.all, Misuse.occursIn, Misuse.recognise, hcall, hquotes, hblanks,
    hatSign]

end Sanitizer

namespace TimeAlias

variable {column given query : List Char}

-- The passes that resolve an alias.
def resolvers (column given : List Char) : List Recogniser :=
  if lower given = lower column then [recogniseOwn column given]
  else verbs.map fun verb => recogniseUse verb column given

theorem resolve_eq : resolve column given query = replaceEach (resolvers column given) query := by
  unfold resolve resolvers
  split <;> rfl

theorem resolveAll_eq : resolveAll query column =
    replaceEach ((aliases column query).flatMap (resolvers column)) query := by
  unfold resolveAll
  generalize aliases column query = found
  induction found generalizing query with
  | nil => rfl
  | cons given found ih =>
      rw [List.foldl_cons, ih, resolve_eq, List.flatMap_cons, replaceEach_append]

-- Whether a column has a plain name, and no alias of it in a text can be taken for it.
structure IsPlain (column text : List Char) : Prop where
  name : IsName column
  apart : ∀ given ∈ aliases column text, lower given ≠ lower column → IsApart column given

theorem lightens_bulk_resolvers (hname : IsName column) :
    ∀ recognise ∈ resolvers column given, Lightens bulk recognise := by
  intro recognise hmem
  unfold resolvers at hmem
  split at hmem
  · obtain rfl := List.mem_singleton.mp hmem
    exact (lightensAtHits_bulk_own hname).lightens
  · obtain ⟨verb, hverb, rfl⟩ := List.mem_map.mp hmem
    exact lightens_bulk_use hname hverb

theorem lightensAtHits_resolvers (hplain : IsPlain column query)
    (h : given ∈ aliases column query) : ∀ recognise ∈ resolvers column given,
      LightensAtHits (both bulk (naming column)) recognise := by
  intro recognise hmem
  unfold resolvers at hmem
  split at hmem
  · obtain rfl := List.mem_singleton.mp hmem
    exact (lightensAtHits_bulk_own hplain.name).first _
  · next hother =>
    obtain ⟨verb, hverb, rfl⟩ := List.mem_map.mp hmem
    obtain ⟨hne, hwords⟩ := isWord_of_mem_aliases h
    have hnaming := lightensAtHits_naming hplain.name (hplain.apart given h hother) hverb hne hwords
    exact hnaming.second (lightens_bulk_use hplain.name hverb)

end TimeAlias

namespace Interpolation

open TimeMacro TimeAlias

variable {env : Surroundings} {context : QueryContext} {query : List Char} {now : Instant}
  {result : Interpolation}

-- The passes of the repair and for the macro of the column, where other macros are missing.
def repairPasses (column : Option String) : List Recogniser :=
  [Misuse.recogniseBlanks, Misuse.recogniseAtSign] ++
    column.elim [] fun column => [TimeMacro.field.recognise column.toList]

-- The passes that resolve the aliases of the column.
def aliasPasses (column : Option String) (text : List Char) : List Recogniser :=
  column.elim [] fun column => (aliases column.toList text).flatMap (resolvers column.toList)

theorem lightensAtHits_repairPasses {column : Option String}
    (h : ∀ name, column = some name → IsName name.toList) :
    ∀ recognise ∈ repairPasses column, LightensAtHits bulk recognise := by
  cases column with
  | none => simp [repairPasses, lightensAtHits_bulk_blanks, lightensAtHits_bulk_atSign]
  | some name =>
      simp [repairPasses, lightensAtHits_bulk_blanks, lightensAtHits_bulk_atSign,
        lightensAtHits_bulk_macro, (h name rfl).dollar_not_mem]

theorem lightens_aliasPasses {column : Option String}
    (h : ∀ name, column = some name → IsName name.toList) (text : List Char) :
    ∀ recognise ∈ aliasPasses column text, Lightens bulk recognise := by
  intro recognise hmem
  cases column with
  | none => cases hmem
  | some name =>
      obtain ⟨given, -, hgiven⟩ := List.mem_flatMap.mp hmem
      exact lightens_bulk_resolvers (h name rfl) recognise hgiven

theorem lightensAtHits_aliasPasses {column : Option String} {text : List Char}
    (h : ∀ name, column = some name → IsPlain name.toList text) :
    ∀ recognise ∈ aliasPasses column text,
      LightensAtHits (both bulk (naming (column.getD TimeColumn.fallback).toList)) recognise := by
  intro recognise hmem
  cases column with
  | none => cases hmem
  | some name =>
      obtain ⟨given, hgiven, hresolver⟩ := List.mem_flatMap.mp hmem
      exact lightensAtHits_resolvers (h name rfl) hgiven recognise hresolver

-- Whether nothing is left in a text to be put right: no misuse, and no alias of its column that is
-- the column's own name or is used for grouping or ordering.
structure IsSettled (context : QueryContext) (text : List Char) : Prop where
  problems : Sanitizer.problems text = []
  aliases : ∀ recognise ∈ aliasPasses (chosenColumn context text) text,
    occurs recognise text = false

theorem columnDraft_eq_replaceEach {text : List Char} (h : anyIn text = false) :
    let repaired := replaceEach (repairPasses (chosenColumn context text)) text
    (columnDraft env context text).text =
      replaceEach (aliasPasses (chosenColumn context text) repaired) repaired := by
  intro repaired
  unfold columnDraft
  cases hchosen : chosenColumn context text with
  | none =>
      simp only [repaired, repairPasses, aliasPasses, hchosen, Option.elim_none, List.append_nil]
      exact Sanitizer.repair_of_not_anyIn h
  | some column =>
      have hrepaired :
          repaired = TimeMacro.field.replace column.toList (Sanitizer.repair text) := by
        simp only [repaired, repairPasses, hchosen, Option.elim_some]
        rw [replaceEach_append, Sanitizer.repair_of_not_anyIn h]
        rfl
      rw [placeColumn_text, resolveAll_eq, hrepaired]
      rfl

theorem columnDraft_of_isSettled {text : List Char} (h : anyIn text = false)
    (hsettled : IsSettled context text) : (columnDraft env context text).text = text := by
  have hchosen : columnFor context text = chosenColumn context text := by
    rw [chosenColumn, Sanitizer.repair_of_problems_eq_nil hsettled.problems]
  have haliases := hsettled.aliases
  rw [columnDraft_text, Sanitizer.repair_of_problems_eq_nil hsettled.problems, withColumn, hchosen]
  cases hcolumn : chosenColumn context text with
  | none => rfl
  | some column =>
      rw [hcolumn] at haliases
      have hfield : TimeMacro.field.replace column.toList text = text :=
        replaceAll_of_not_occurs (not_occurs_of_not_anyIn h _ _)
      simp only [hfield, resolveAll_eq]
      exact replaceEach_of_not_occurs haliases

theorem placeStart_text (tick : Int) (draft : Draft) : (placeStart tick draft).text =
    TimeMacro.start.replace (toString tick).toList draft.text := by
  unfold placeStart
  split
  · rfl
  · next hstands => exact (replace_of_not_standsIn _ (by simpa using hstands)).symm

theorem placeFinish_text (tick : Int) (draft : Draft) : (placeFinish tick draft).text =
    TimeMacro.finish.replace (toString tick).toList draft.text := by
  unfold placeFinish
  split
  · rfl
  · next hstands => exact (replace_of_not_standsIn _ (by simpa using hstands)).symm

-- What follows the column is one pass for each of some macros.
theorem exists_replacements (h : ofContext env context query now = .ok result) :
    ∃ steps : List (TimeMacro × List Char),
      ('$' ∉ (columnName context query).toList → ∀ step ∈ steps, '$' ∉ step.2) ∧
      result.query.toList =
        replaceEach (steps.map fun step => step.1.recognise step.2)
          (columnDraft env context query).text := by
  obtain ⟨window, filtered, spaced, -, hfiltered, hspaced, hquery, -⟩ := ofContext_eq_ok h
  have hfilter : ∃ clause, ('$' ∉ (columnName context query).toList → '$' ∉ clause) ∧
      filtered.text = TimeMacro.filter.replace clause (columnDraft env context query).text := by
    rcases placeFilter_eq_ok hfiltered with ⟨habsent, rfl⟩ | ⟨-, found, hfound, rfl⟩
    · exact ⟨[], by simp, (replace_of_not_standsIn [] habsent).symm⟩
    · exact ⟨_, fun hcolumn => dollar_not_mem_clause hcolumn hfound, rfl⟩
  obtain ⟨clause, hclause, hfilteredText⟩ := hfilter
  have hinterval : PassFor env context (columnName context query) window .interval filtered.text
      spaced.text := passFor_interval hspaced
  obtain ⟨seconds, hseconds, hspacedText, -⟩ := hinterval
  rw [hquery, String.toList_ofList]
  cases hends : endsFor context (columnName context query) window with
  | none =>
      refine ⟨[(.filter, clause), (.interval, seconds)], ?_, ?_⟩
      · intro hcolumn
        simp [hclause hcolumn, hseconds]
      · rw [placeEnds_none_text, hspacedText, hfilteredText]
        rfl
  | some ends =>
      refine ⟨[(.filter, clause), (.interval, seconds), (.start, (toString ends.1).toList),
        (.finish, (toString ends.2).toList)], ?_, ?_⟩
      · intro hcolumn
        have hticks := And.intro (Calendar.dollar_not_mem_int ends.1)
          (Calendar.dollar_not_mem_int ends.2)
        simpa [hclause hcolumn, hseconds] using hticks
      · rw [placeEnds_some, placeFinish_text, placeStart_text, hspacedText, hfilteredText]
        rfl

-- The ends of the range bring in no interval.
theorem interval_of_placeEnds {ends : Option (Int × Int)} {draft : Draft}
    (h : TimeMacro.interval.standsIn (placeEnds ends draft).text = true) :
    TimeMacro.interval.standsIn draft.text = true := by
  have hdigits (tick : Int) : (toString tick).toList ≠ [] ∧
      ∀ c ∈ (toString tick).toList, c ∉ TimeMacro.interval.token := by
    refine ⟨Calendar.int_ne_nil tick, fun c hc hmem => ?_⟩
    have hnone : TimeMacro.interval.token.all fun c => c ≠ '-' ∧ c.isDigit = false := by decide
    obtain ⟨hminus, hdigit⟩ := of_decide_eq_true (List.all_eq_true.mp hnone c hmem)
    rcases Calendar.mem_int hc with rfl | hc
    · exact hminus rfl
    · rw [hdigit] at hc
      cases hc
  cases ends with
  | none => rwa [placeEnds_none_text] at h
  | some ends =>
      rw [placeEnds_some, placeFinish_text, placeStart_text] at h
      exact standsIn_of_replace (hdigits _).1 (hdigits _).2
        (standsIn_of_replace (hdigits _).1 (hdigits _).2 h)

-- A run that came to a result had points for its interval, so the same holds for what it returned.
theorem not_dividesByZero_again {text : List Char}
    (h : ofContext env context query now = .ok result) (hresult : result.query.toList = text)
    (hmacros : anyIn text = false) (hdraft : (columnDraft env context text).text = text) :
    ¬ DividesByZero env context text now := by
  rintro ⟨hpoints, bounds, again, hbounds, hagain, hinterval⟩
  have hunchanged : again.text = text := by
    rcases placeFilter_eq_ok hagain with ⟨-, rfl⟩ | ⟨-, found, -, rfl⟩
    · exact hdraft
    · rw [withClause, hdraft]
      exact replaceAll_of_not_occurs (not_occurs_of_not_anyIn hmacros _ _)
  obtain ⟨window, filtered, spaced, hwindow, hfiltered, hspaced, hquery, -⟩ := ofContext_eq_ok h
  rw [hunchanged, ← hresult, hquery, String.toList_ofList] at hinterval
  have hspacedInterval := interval_of_placeEnds hinterval
  rcases placeInterval_eq_ok hspaced with ⟨habsent, rfl⟩ | ⟨hstands, seconds, hseconds, -⟩
  · rw [hspacedInterval] at habsent
    cases habsent
  · have hneeds := needsRange_of_interval hfiltered hstands
    rw [(windowFor_eq_some_iff hneeds).mpr hbounds] at hwindow
    cases hwindow
    have hfails : intervalFor env context (some bounds) = .error .divisionByZero :=
      intervalFor_eq_error_iff.mpr ⟨rfl, hpoints, rfl⟩
    rw [hfails] at hseconds
    cases hseconds

theorem exists_again {text : List Char} (henv : env.IsRegular)
    (h : ofContext env context query now = .ok result) (hresult : result.query.toList = text)
    (hmacros : anyIn text = false) (hsettled : IsSettled context text) :
    ∃ again, ofContext env context text now = .ok again ∧ again.query.toList = text := by
  have hdraft : (columnDraft env context text).text = text :=
    columnDraft_of_isSettled hmacros hsettled
  cases hagain : ofContext env context text now with
  | error fault =>
      obtain ⟨-, hdivides⟩ := (ofContext_eq_error_iff henv).mp hagain
      exact absurd hdivides (not_dividesByZero_again h hresult hmacros hdraft)
  | ok again =>
      obtain ⟨steps, -, hquery⟩ := exists_replacements hagain
      refine ⟨again, rfl, ?_⟩
      rw [hquery, hdraft]
      apply replaceEach_of_not_occurs
      intro recognise hmem
      obtain ⟨step, -, rfl⟩ := List.mem_map.mp hmem
      exact not_occurs_of_not_anyIn hmacros _ _

-- A text that comes back as it was had nothing left to be put right. No pass made it lighter.
theorem isSettled_of_again {text : List Char} (hmacros : anyIn text = false)
    (hplain : ∀ column, chosenColumn context text = some column → IsPlain column.toList text)
    (h : ofContext env context text now = .ok result) (hresult : result.query.toList = text) :
    IsSettled context text := by
  have hnames : ∀ column, chosenColumn context text = some column → IsName column.toList :=
    fun column hchosen => (hplain column hchosen).name
  have hdollar : '$' ∉ (columnName context text).toList := by
    unfold columnName
    cases hchosen : chosenColumn context text with
    | none => decide
    | some column => exact (hnames column hchosen).dollar_not_mem
  obtain ⟨steps, hsteps, hquery⟩ := exists_replacements h
  have hmacroPasses : ∀ recognise ∈ steps.map fun step => step.1.recognise step.2,
      LightensAtHits bulk recognise := by
    intro recognise hmem
    obtain ⟨step, hstep, rfl⟩ := List.mem_map.mp hmem
    exact lightensAtHits_bulk_macro step.1 (hsteps hdollar step hstep)
  rw [hresult, columnDraft_eq_replaceEach hmacros] at hquery
  -- Weighed without the names of the column, which aliases are still to be found does not matter.
  have hrepair : ∀ recognise ∈ repairPasses (chosenColumn context text),
      occurs recognise text = false := by
    refine not_occurs_of_replaceEach_eq (lightensAtHits_repairPasses hnames)
      (fun repaired => replaceEach (steps.map fun step => step.1.recognise step.2)
        (replaceEach (aliasPasses (chosenColumn context text) repaired) repaired))
      (fun repaired => ?_) hquery.symm
    exact (replaceEach_le (fun _ hmem => (hmacroPasses _ hmem).lightens) _).trans
      (replaceEach_le (lightens_aliasPasses hnames repaired) _)
  rw [replaceEach_of_not_occurs hrepair] at hquery
  refine ⟨Sanitizer.problems_eq_nil_of_not_anyIn hmacros (hrepair _ (by simp [repairPasses]))
    (hrepair _ (by simp [repairPasses])), ?_⟩
  exact not_occurs_of_replaceEach_eq (lightensAtHits_aliasPasses hplain) _
    (replaceEach_le fun _ hmem => ((hmacroPasses _ hmem).first _).lightens) hquery.symm

end Interpolation

namespace PreparedQuery

open Interpolation TimeMacro TimeAlias

variable {env : Surroundings} {context : QueryContext} {query given : Cell} {text : String}
  {now : Instant} {blocking : Bool} {prepared : PreparedQuery}

theorem errors_of_not_anyIn (hmacros : anyIn text.toList = false) (column : Option String)
    (range : Cell) : QueryValidation.errors env (.text text) column range now = .ok [] := by
  simp [QueryValidation.errors, hmacros]

-- A query that is returned without macros was not held back.
theorem exists_inContext (hcontext : QueryContext.ofCell env.settings given = .ok context)
    (h : ofQuery env query given now blocking = .ok prepared) (htext : prepared.query = .text text)
    (hmacros : anyIn text.toList = false) :
    ∃ result, inContext env query context now = .ok result ∧ result.query = text := by
  simp only [ofQuery, hcontext] at h
  obtain ⟨problems, hproblems, h⟩ := Fault.bind_eq_ok_iff.mp h
  split at h
  · next hblocked =>
    obtain rfl := Fault.pure_eq_ok_iff.mp h
    obtain rfl : query = .text text := htext
    rw [errors_of_not_anyIn hmacros] at hproblems
    cases hproblems
    simp at hblocked
  · obtain ⟨result, hresult, h⟩ := Fault.bind_eq_ok_iff.mp h
    obtain rfl := Fault.pure_eq_ok_iff.mp h
    exact ⟨result, hresult, Cell.text.inj htext⟩

-- Whether a text comes out of its preparation as it went in.
def IsUnchanged (env : Surroundings) (given : Cell) (now : Instant) (blocking : Bool)
    (text : String) : Prop :=
  ∃ prepared, ofQuery env (.text text) given now blocking = .ok prepared ∧
    prepared.query = .text text

theorem isUnchanged_iff (hcontext : QueryContext.ofCell env.settings given = .ok context)
    (hmacros : anyIn text.toList = false) :
    IsUnchanged env given now blocking text ↔
      ∃ result, inContext env (.text text) context now = .ok result ∧ result.query = text := by
  constructor
  · rintro ⟨prepared, hprepared, htext⟩
    exact exists_inContext hcontext hprepared htext hmacros
  · rintro ⟨result, hresult, htext⟩
    refine ⟨⟨.text result.query, some result, []⟩, ?_, by rw [htext]⟩
    simp only [ofQuery, hcontext, ofContext, errors_of_not_anyIn hmacros, hresult]
    simp [bind, Except.bind, pure, Except.pure]

-- What a preparation returns without macros is prepared again without change if nothing is left in
-- it to be put right. If the column has a plain name, that is the only way.
theorem isUnchanged_iff_isSettled (henv : env.IsRegular)
    (hcontext : QueryContext.ofCell env.settings given = .ok context)
    (hprepared : ofQuery env query given now blocking = .ok prepared)
    (htext : prepared.query = .text text) (hmacros : anyIn text.toList = false) (again : Bool) :
    (IsSettled context text.toList → IsUnchanged env given now again text) ∧
    ((∀ column, chosenColumn context text.toList = some column →
        IsPlain column.toList text.toList) →
      (IsUnchanged env given now again text ↔ IsSettled context text.toList)) := by
  rw [isUnchanged_iff hcontext hmacros]
  obtain ⟨result, hresult, hquery⟩ := exists_inContext hcontext hprepared htext hmacros
  by_cases hempty : text = ""
  · subst hempty
    have hsettled : IsSettled context "".toList := ⟨rfl, fun _ _ => rfl⟩
    have hunchanged : inContext env (.text "") context now = .ok invalidQuery := rfl
    exact ⟨fun _ => ⟨_, hunchanged, rfl⟩,
      fun _ => ⟨fun _ => hsettled, fun _ => ⟨_, hunchanged, rfl⟩⟩⟩
  · have hagain : inContext env (.text text) context now =
        Interpolation.ofContext env context text.toList now := by
      simp [inContext, hempty]
    have hfirst : ∃ original, Interpolation.ofContext env context original now = .ok result := by
      unfold inContext at hresult
      split at hresult
      · next original =>
        split at hresult
        · cases hresult
          exact absurd hquery.symm hempty
        · exact ⟨original.toList, hresult⟩
      · cases hresult
        exact absurd hquery.symm hempty
    obtain ⟨original, hfirst⟩ := hfirst
    have hkept (hsettled : IsSettled context text.toList) :
        ∃ result, inContext env (.text text) context now = .ok result ∧ result.query = text := by
      obtain ⟨second, hsecond, hsame⟩ := exists_again henv hfirst (by rw [hquery]) hmacros hsettled
      exact ⟨second, hagain.trans hsecond, String.toList_inj.mp hsame⟩
    refine ⟨hkept, fun hplain => ⟨?_, hkept⟩⟩
    rintro ⟨second, hsecond, hsame⟩
    exact isSettled_of_again hmacros hplain (hagain ▸ hsecond) (by rw [hsame])

def dotted : Cell := .object [("time_column", .text "t.created")]

-- What becomes of grouping by an alias of its own, and of grouping by one that is also the name of
-- the table.
def grouped : String := "SELECT t.created AS bucket FROM logs t GROUP BY t.created"
def regrouped : String := "SELECT t.created AS t FROM logs t GROUP BY t.created"

-- Whether a text is what becomes of a query.
def returns (text : String) (prepared : PreparedQuery) : Bool :=
  match prepared.query with
  | .text found => found = text
  | _ => false

theorem exists_of_returns (env : Surroundings) (query given : Cell) (now : Instant)
    (blocking : Bool) (text : String)
    (h : (ofQuery env query given now blocking).toOption.any (returns text) = true) :
    ∃ prepared, ofQuery env query given now blocking = .ok prepared ∧
      prepared.query = .text text := by
  obtain ⟨prepared, hprepared, htest⟩ := Fault.exists_ok_of_any _ _ h
  refine ⟨prepared, hprepared, ?_⟩
  unfold returns at htest
  split at htest
  · next found hfound => rw [hfound, of_decide_eq_true htest]
  · cases htest

theorem isUnchanged_iff_isSettled_dotted :
    IsUnchanged (withPoints 1000) dotted (withPoints 1000).clock true grouped ∧
      ¬ IsUnchanged (withPoints 1000) dotted (withPoints 1000).clock true regrouped := by
  obtain ⟨context, hcontext, htest⟩ := Fault.exists_ok_of_any
    (QueryContext.ofCell (withPoints 1000).settings dotted)
    (fun context => chosenColumn context grouped.toList = some "t.created" &&
      chosenColumn context regrouped.toList = some "t.created") (by decide +kernel)
  simp only [Bool.and_eq_true, decide_eq_true_eq] at htest
  obtain ⟨hgrouped, hregrouped⟩ := htest
  have hname : IsName "t.created".toList := List.all_eq_true.mp (by decide)
  constructor
  · obtain ⟨prepared, hprepared, hquery⟩ := exists_of_returns (withPoints 1000)
      (.text "SELECT t.created AS bucket FROM logs t GROUP BY bucket") dotted
      (withPoints 1000).clock false grouped (by decide +kernel)
    obtain ⟨hkept, -⟩ := isUnchanged_iff_isSettled (isRegular_withPoints 1000) hcontext hprepared
      hquery (by decide +kernel) true
    refine hkept ⟨by decide +kernel, ?_⟩
    rw [hgrouped]
    have hnone : (aliasPasses (some "t.created") grouped.toList).all
        (fun recognise => !occurs recognise grouped.toList) = true := by decide +kernel
    simpa using List.all_eq_true.mp hnone
  · obtain ⟨prepared, hprepared, hquery⟩ := exists_of_returns (withPoints 1000)
      (.text "SELECT t.created AS t FROM logs t GROUP BY t") dotted
      (withPoints 1000).clock false regrouped (by decide +kernel)
    obtain ⟨-, hexact⟩ := isUnchanged_iff_isSettled (isRegular_withPoints 1000) hcontext hprepared
      hquery (by decide +kernel) true
    have hplain : ∀ column, chosenColumn context regrouped.toList = some column →
        IsPlain column.toList regrouped.toList := by
      intro column hcolumn
      rw [hregrouped] at hcolumn
      cases hcolumn
      exact ⟨hname, fun _ _ _ => .inl (by decide)⟩
    rw [hexact hplain]
    intro hsettled
    have haliases := hsettled.aliases
    rw [hregrouped] at haliases
    have hsome : (aliasPasses (some "t.created") regrouped.toList).any
        (fun recognise => occurs recognise regrouped.toList) = true := by decide +kernel
    obtain ⟨recognise, hmem, hoccurs⟩ := List.any_eq_true.mp hsome
    rw [haliases recognise hmem] at hoccurs
    cases hoccurs

-- A column with the table's name in it drifts if its alias is that name: preparing the outcome once
-- more takes the table in front of the column for the alias.
theorem drifts_of_alias_before_dot :
    ∃ first second,
      ofQuery (withPoints 1000) (.text "SELECT t.created AS t FROM logs t GROUP BY t") dotted
        (withPoints 1000).clock false = .ok first ∧
      first.query = .text regrouped ∧ anyIn regrouped.toList = false ∧
      ofQuery (withPoints 1000) (.text regrouped) dotted (withPoints 1000).clock false =
        .ok second ∧
      second.query = .text "SELECT t.created AS t FROM logs t GROUP BY t.created.created" := by
  obtain ⟨first, hfirst, hquery⟩ := exists_of_returns (withPoints 1000)
    (.text "SELECT t.created AS t FROM logs t GROUP BY t") dotted (withPoints 1000).clock false
    regrouped (by decide +kernel)
  obtain ⟨second, hsecond, hagain⟩ := exists_of_returns (withPoints 1000) (.text regrouped) dotted
    (withPoints 1000).clock false "SELECT t.created AS t FROM logs t GROUP BY t.created.created"
    (by decide +kernel)
  exact ⟨first, second, hfirst, hquery, by decide +kernel, hsecond, hagain⟩

end PreparedQuery

end TimePanel
