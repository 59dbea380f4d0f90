import Mathlib.Data.List.TakeDrop
import TimePanel.Proofs.Query.Piece
import TimePanel.Proofs.Text.Case
import TimePanel.Query.Alias

/-! Resolving aliases of the time column leaves macros alone. -/

namespace TimePanel.TimeAlias

open Text TimeMacro Piece

theorem isQualified_of_isWord {c : Char} (h : isWord c = true) :
    isQualified (some c) = true := by
  simp [isQualified, h]

theorem endsAtBoundary_append (taken rest : List Char) :
    endsAtBoundary (taken ++ rest) rest = atBoundary taken.getLast? rest := by
  simp [endsAtBoundary]

variable {column given taken text : List Char} {before : Option Char} {hit : Hit} {verb : String}
  {mark : Char}

-- A column and its alias, in some spelling.
def IsOwn (column given taken : List Char) : Prop :=
  ∃ name gap link space other, taken = name ++ (gap ++ (link ++ (space ++ other))) ∧
    Spells name column ∧ IsGap gap ∧ Spells link "as".toList ∧ IsGap space ∧ Spells other given

theorem IsOwn.ne_nil (h : IsOwn column given taken) : taken ≠ [] := by
  obtain ⟨name, gap, link, space, other, rfl, -, ⟨hgap, -⟩, -⟩ := h
  simp [hgap]

theorem IsOwn.mark_not_mem (h : IsOwn column given taken) (hmark : mark ∈ marks)
    (hcolumn : mark ∉ column) (hgiven : mark ∉ given) : mark ∉ taken := by
  obtain ⟨name, gap, link, space, other, rfl, hname, hgap, hlink, hspace, hother⟩ := h
  have has : mark ∉ "as".toList := mark_not_mem_of_isWord hmark (by decide)
  simp [hname.mark_not_mem hmark hcolumn, hgap.mark_not_mem hmark, hlink.mark_not_mem hmark has,
    hspace.mark_not_mem hmark, hother.mark_not_mem hmark hgiven]

theorem recogniseOwn_split (h : recogniseOwn column given before text = some hit) :
    isQualified before = false ∧ ∃ taken rest, text = taken ++ rest ∧
      hit = ⟨taken.length, column⟩ ∧ atBoundary taken.getLast? rest = true ∧
      IsOwn column given taken := by
  simp only [recogniseOwn, afterColumnAs?, Option.bind_eq_bind, Option.bind_eq_some_iff] at h
  obtain ⟨afterAs, hafterAs, rest, hrest, h⟩ := h
  split at hafterAs
  · cases hafterAs
  · next hbefore =>
    simp only [Option.bind_eq_some_iff] at hafterAs
    obtain ⟨afterName, htext, afterGap, hname', afterLink, hgap', hlink'⟩ := hafterAs
    obtain ⟨name, rfl, hname⟩ := afterFolded?_split htext
    obtain ⟨gap, rfl, hgap⟩ := afterBlanks?_split hname'
    obtain ⟨link, rfl, hlink⟩ := afterFolded?_split hgap'
    obtain ⟨space, rfl, hspace⟩ := afterBlanks?_split hlink'
    obtain ⟨other, rfl, hother⟩ := afterFolded?_split hrest
    split at h
    · next hends =>
      cases h
      refine ⟨by simpa using hbefore, name ++ (gap ++ (link ++ (space ++ other))), rest, by simp,
        ?_, ?_, name, gap, link, space, other, rfl, hname, hgap, hlink, hspace, hother⟩
      · simp only [Hit.mk.injEq, List.length_append, and_true]
        omega
      · rwa [← endsAtBoundary_append, List.append_assoc, List.append_assoc, List.append_assoc,
          List.append_assoc]
    · cases h

theorem recogniseOwn_staysClear (hcolumn : '$' ∉ column) (hgiven : '$' ∉ given) :
    StaysClear (recogniseOwn column given) where
  takesSome h := by
    obtain ⟨-, taken, rest, -, rfl, -, hown⟩ := recogniseOwn_split h
    exact List.length_pos_iff.mpr hown.ne_nil
  takesNoDollar h := by
    obtain ⟨-, taken, rest, rfl, rfl, -, hown⟩ := recogniseOwn_split h
    rw [List.take_left]
    exact hown.mark_not_mem (by decide) hcolumn hgiven
  notAfterWord hc := by
    rw [Option.eq_none_iff_forall_ne_some]
    intro hit hhit
    have := (recogniseOwn_split hhit).1
    rw [isQualified_of_isWord hc] at this
    cases this
  notAfterDollar := by
    intro text
    rw [Option.eq_none_iff_forall_ne_some]
    intro hit hhit
    exact absurd (recogniseOwn_split hhit).1 (by decide)

-- The words that introduce the uses of an alias.
def verbs : List String := ["GROUP", "ORDER"]

theorem lower_verb (h : verb ∈ verbs) :
    ∃ c word, lower verb.toList = c :: word ∧ (c = 'g' ∨ c = 'o') ∧
      (c :: word).all isWord = true := by
  simp only [verbs, List.mem_cons, List.not_mem_nil, or_false] at h
  rcases h with rfl | rfl
  · exact ⟨'g', "roup".toList, by decide, by decide, by decide⟩
  · exact ⟨'o', "rder".toList, by decide, by decide, by decide⟩

-- A use of an alias, in some spelling.
def IsUse (verb : String) (given taken : List Char) : Prop :=
  ∃ start gap link space other, taken = start ++ (gap ++ (link ++ (space ++ other))) ∧
    Spells start (lower verb.toList) ∧ IsGap gap ∧ Spells link "by".toList ∧ IsGap space ∧
    Spells other given

theorem IsUse.head (h : IsUse verb given taken) (hverb : verb ∈ verbs) :
    ∃ c rest, taken = c :: rest ∧ isWord c = true ∧ c ≠ '_' := by
  obtain ⟨start, gap, link, space, other, rfl, hstart, -⟩ := h
  obtain ⟨c, word, hlower, hc, -⟩ := lower_verb hverb
  rw [hlower] at hstart
  obtain ⟨head, tail, rfl, hkey, -⟩ := List.map_eq_cons_iff.mp hstart
  refine ⟨head, _, rfl, isWord_of_caseKey ?_⟩
  rcases hc with rfl | rfl <;> simp [hkey]

theorem IsUse.mark_not_mem (h : IsUse verb given taken) (hverb : verb ∈ verbs)
    (hmark : mark ∈ marks) (hgiven : mark ∉ given) : mark ∉ taken := by
  obtain ⟨start, gap, link, space, other, rfl, hstart, hgap, hlink, hspace, hother⟩ := h
  obtain ⟨c, word, hlower, -, hword⟩ := lower_verb hverb
  have hstart' : mark ∉ lower verb.toList := by
    rw [hlower]
    exact mark_not_mem_of_isWord hmark hword
  have hby : mark ∉ "by".toList := mark_not_mem_of_isWord hmark (by decide)
  simp [hstart.mark_not_mem hmark hstart', hgap.mark_not_mem hmark,
    hlink.mark_not_mem hmark hby, hspace.mark_not_mem hmark, hother.mark_not_mem hmark hgiven]

-- The use of a column that takes the place of one of its alias.
def useOf (verb : String) (column : List Char) : List Char :=
  verb.toList ++ " BY ".toList ++ column

theorem useOf_eq (verb : String) (column : List Char) :
    useOf verb column = verb.toList ++ ([' '] ++ (['B', 'Y'] ++ ([' '] ++ column))) := by
  simp [useOf, show " BY ".toList = [' ', 'B', 'Y', ' '] from rfl]

theorem recogniseUse_split (h : recogniseUse verb column given before text = some hit) :
    atBoundary before text = true ∧ ∃ taken rest, text = taken ++ rest ∧
      hit = ⟨taken.length, useOf verb column⟩ ∧ atBoundary taken.getLast? rest = true ∧
      IsUse verb given taken := by
  unfold recogniseUse at h
  split at h
  · cases h
  · next hboundary =>
    simp only [Option.bind_eq_bind, Option.bind_eq_some_iff] at h
    obtain ⟨afterStart, htext, afterGap, hstart', afterLink, hgap', afterSpace, hlink', rest, hrest,
      h⟩ := h
    obtain ⟨start, rfl, hstart⟩ := afterFolded?_split htext
    obtain ⟨gap, rfl, hgap⟩ := afterBlanks?_split hstart'
    obtain ⟨link, rfl, hlink⟩ := afterFolded?_split hgap'
    obtain ⟨space, rfl, hspace⟩ := afterBlanks?_split hlink'
    obtain ⟨other, rfl, hother⟩ := afterFolded?_split hrest
    split at h
    · next hends =>
      cases h
      refine ⟨by simpa using hboundary, start ++ (gap ++ (link ++ (space ++ other))), rest, by simp,
        ?_, ?_, start, gap, link, space, other, rfl, hstart, hgap, hlink, hspace, hother⟩
      · simp only [Hit.mk.injEq, List.length_append, useOf, and_true]
        omega
      · rwa [← endsAtBoundary_append, List.append_assoc, List.append_assoc, List.append_assoc,
          List.append_assoc]
    · cases h

theorem recogniseUse_staysClear (verb : String) (hverb : verb ∈ verbs) (column : List Char)
    (hgiven : '$' ∉ given) : StaysClear (recogniseUse verb column given) where
  takesSome h := by
    obtain ⟨-, taken, rest, -, rfl, -, huse⟩ := recogniseUse_split h
    obtain ⟨c, more, rfl, -⟩ := huse.head hverb
    exact Nat.zero_lt_succ _
  takesNoDollar h := by
    obtain ⟨-, taken, rest, rfl, rfl, -, huse⟩ := recogniseUse_split h
    rw [List.take_left]
    exact huse.mark_not_mem hverb (by decide) hgiven
  notAfterWord hc := by
    rw [Option.eq_none_iff_forall_ne_some]
    intro hit hhit
    obtain ⟨hboundary, taken, rest, rfl, -, -, huse⟩ := recogniseUse_split hhit
    obtain ⟨head, more, rfl, hword, -⟩ := huse.head hverb
    simp [atBoundary, hc, hword] at hboundary
  notAfterDollar := by
    intro text
    rw [Option.eq_none_iff_forall_ne_some]
    intro hit hhit
    obtain ⟨-, taken, rest, heq, -, -, huse⟩ := recogniseUse_split hhit
    obtain ⟨head, more, rfl, -, hne⟩ := huse.head hverb
    exact hne (List.cons.inj heq).1.symm

-- Every alias was found after the column.
theorem exists_hit_of_mem_aliases {column query given : List Char}
    (h : given ∈ aliases column query) :
    ∃ hit ∈ hits (recogniseAny column) query, hit.text = given := by
  have hfold (more : List Hit) (found : List (List Char))
      (h : given ∈ more.foldl (fun found hit =>
        if found.contains hit.text then found else found ++ [hit.text]) found) :
      given ∈ found ∨ ∃ hit ∈ more, hit.text = given := by
    induction more generalizing found with
    | nil => exact Or.inl h
    | cons hit more ih =>
        rcases ih _ h with h | ⟨later, hlater, rfl⟩
        · dsimp only at h
          split at h
          · exact Or.inl h
          · rcases List.mem_append.mp h with h | h
            · exact Or.inl h
            · exact Or.inr ⟨hit, List.mem_cons_self, (List.mem_singleton.mp h).symm⟩
        · exact Or.inr ⟨later, List.mem_cons_of_mem _ hlater, rfl⟩
  exact (hfold _ [] h).resolve_left (by simp)

-- Each of them stands in the query, after the column.
theorem exists_place_of_mem_aliases {column query given : List Char}
    (h : given ∈ aliases column query) :
    ∃ start rest after, query = start ++ rest ∧
      afterColumnAs? column start.getLast? rest = some after ∧
      given = after.takeWhile isWord ∧ given ≠ [] := by
  obtain ⟨hit, hmem, rfl⟩ := exists_hit_of_mem_aliases h
  obtain ⟨start, rest, rfl, hhit⟩ := exists_of_mem_hits hmem
  simp only [recogniseAny, Option.bind_eq_bind, Option.bind_eq_some_iff] at hhit
  obtain ⟨after, hafter, hhit⟩ := hhit
  split at hhit
  · cases hhit
  · next hne =>
    cases hhit
    rw [List.span_eq_takeWhile_dropWhile] at hne ⊢
    exact ⟨start, rest, after, rfl, hafter, rfl, by simpa using hne⟩

-- Aliases are words.
theorem isWord_of_mem_aliases {column query given : List Char} (h : given ∈ aliases column query) :
    given ≠ [] ∧ ∀ c ∈ given, isWord c = true := by
  obtain ⟨start, rest, after, -, -, rfl, hne⟩ := exists_place_of_mem_aliases h
  exact ⟨hne, fun c hc => List.all_eq_true.mp List.all_takeWhile c hc⟩

theorem dollar_not_mem_of_mem_aliases {column query given : List Char}
    (h : given ∈ aliases column query) : '$' ∉ given :=
  fun hmem => ne_dollar_of_isWord ((isWord_of_mem_aliases h).2 _ hmem) rfl

-- Resolving an alias is a sequence of passes that stay clear of macros. Where the column is put in
-- place of its own name, the column is a word as the alias is.
theorem infix_resolve {timeMacro : TimeMacro} {column given query : List Char}
    (hgiven : '$' ∉ given) (h : timeMacro.token <:+: query) :
    timeMacro.token <:+: resolve column given query := by
  unfold resolve
  split
  · next hsame =>
    have hcolumn : '$' ∉ column := by
      rwa [← dollar_mem_lower_iff, ← hsame, dollar_mem_lower_iff]
    have hclear := recogniseOwn_staysClear hcolumn hgiven
    exact infix_replaceAll timeMacro hclear.endsBefore (hclear.passes timeMacro) h
  · have hgroup := recogniseUse_staysClear "GROUP" (by decide) column hgiven
    have horder := recogniseUse_staysClear "ORDER" (by decide) column hgiven
    apply infix_replaceAll timeMacro horder.endsBefore (horder.passes timeMacro)
    exact infix_replaceAll timeMacro hgroup.endsBefore (hgroup.passes timeMacro) h

theorem infix_resolveAll {timeMacro : TimeMacro} (column : List Char) {query : List Char}
    (h : timeMacro.token <:+: query) : timeMacro.token <:+: resolveAll query column := by
  unfold resolveAll
  have hgiven : ∀ given ∈ aliases column query, '$' ∉ given :=
    fun _ => dollar_not_mem_of_mem_aliases
  generalize aliases column query = found at hgiven
  induction found generalizing query with
  | nil => exact h
  | cons given found ih =>
      rw [List.foldl_cons]
      exact ih (infix_resolve (hgiven given List.mem_cons_self) h)
        (fun other hmem => hgiven other (List.mem_cons_of_mem _ hmem))

-- Nor do they bring in a macro if the column has no dollar sign.
theorem recogniseOwn_addsNone (hcolumn : '$' ∉ column) (hgiven : '$' ∉ given) :
    AddsNone (recogniseOwn column given) where
  toStaysClear := recogniseOwn_staysClear hcolumn hgiven
  bringsNoDollar h := by
    obtain ⟨-, taken, rest, -, rfl, -⟩ := recogniseOwn_split h
    exact hcolumn
  afterDollar h := absurd (recogniseOwn_split h).1 (by decide)

theorem recogniseUse_addsNone (verb : String) (hverb : verb ∈ verbs) (hcolumn : '$' ∉ column)
    (hgiven : '$' ∉ given) : AddsNone (recogniseUse verb column given) where
  toStaysClear := recogniseUse_staysClear verb hverb column hgiven
  bringsNoDollar h := by
    obtain ⟨-, taken, rest, -, rfl, -, -⟩ := recogniseUse_split h
    simp only [verbs, List.mem_cons, List.not_mem_nil, or_false] at hverb
    rcases hverb with rfl | rfl
    · simp [useOf, hcolumn]
    · simp [useOf, hcolumn]
  afterDollar h := by
    obtain ⟨-, taken, rest, -, rfl, -, -⟩ := recogniseUse_split h
    simp only [verbs, List.mem_cons, List.not_mem_nil, or_false] at hverb
    rcases hverb with rfl | rfl
    · exact ⟨'G', "ROUP BY ".toList ++ column, rfl, by decide⟩
    · exact ⟨'O', "RDER BY ".toList ++ column, rfl, by decide⟩

theorem infix_of_resolve {timeMacro : TimeMacro} {column given query : List Char}
    (hcolumn : '$' ∉ column) (hgiven : '$' ∉ given)
    (h : timeMacro.token <:+: resolve column given query) : timeMacro.token <:+: query := by
  unfold resolve at h
  split at h
  · exact (recogniseOwn_addsNone hcolumn hgiven).infix_of_replaceAll timeMacro h
  · have hgroup := recogniseUse_addsNone "GROUP" (by decide) hcolumn hgiven
    have horder := recogniseUse_addsNone "ORDER" (by decide) hcolumn hgiven
    exact hgroup.infix_of_replaceAll timeMacro (horder.infix_of_replaceAll timeMacro h)

theorem infix_of_resolveAll {timeMacro : TimeMacro} {column query : List Char}
    (hcolumn : '$' ∉ column) (h : timeMacro.token <:+: resolveAll query column) :
    timeMacro.token <:+: query := by
  unfold resolveAll at h
  have hgiven : ∀ given ∈ aliases column query, '$' ∉ given :=
    fun _ => dollar_not_mem_of_mem_aliases
  generalize aliases column query = found at hgiven h
  induction found generalizing query with
  | nil => exact h
  | cons given found ih =>
      rw [List.foldl_cons] at h
      exact infix_of_resolve hcolumn (hgiven given List.mem_cons_self)
        (ih (fun other hmem => hgiven other (List.mem_cons_of_mem _ hmem)) h)

-- With a column that has no dollar sign, what the passes put in has none either.
theorem exists_pieces_resolve {column given : List Char} (hcolumn : '$' ∉ column)
    (hgiven : '$' ∉ given) {pieces : List Piece} (h : Delimited pieces) :
    ∃ result, Delimited result ∧ SameMacros result pieces ∧
      textOf result = resolve column given (textOf pieces) := by
  unfold resolve
  split
  · have hown := recogniseOwn_addsNone hcolumn hgiven
    exact exists_pieces_replaceAll hown.toStaysClear (fun _ _ _ => hown.bringsNoDollar) h
  · have hgroup := recogniseUse_addsNone "GROUP" (by decide) hcolumn hgiven
    have horder := recogniseUse_addsNone "ORDER" (by decide) hcolumn hgiven
    obtain ⟨grouped, hgrouped, hsame, htext⟩ :=
      exists_pieces_replaceAll hgroup.toStaysClear (fun _ _ _ => hgroup.bringsNoDollar) h
    rw [← htext]
    obtain ⟨ordered, hordered, hsame', htext'⟩ :=
      exists_pieces_replaceAll horder.toStaysClear (fun _ _ _ => horder.bringsNoDollar) hgrouped
    exact ⟨ordered, hordered, hsame'.trans hsame, htext'⟩

theorem exists_pieces_resolveAll {column : List Char} (hcolumn : '$' ∉ column)
    {pieces : List Piece} (h : Delimited pieces) :
    ∃ result, Delimited result ∧ SameMacros result pieces ∧
      textOf result = resolveAll (textOf pieces) column := by
  unfold resolveAll
  have hgiven : ∀ given ∈ aliases column (textOf pieces), '$' ∉ given :=
    fun _ => dollar_not_mem_of_mem_aliases
  generalize aliases column (textOf pieces) = found at hgiven
  induction found generalizing pieces with
  | nil => exact ⟨pieces, h, fun _ => Iff.rfl, rfl⟩
  | cons given found ih =>
      obtain ⟨resolved, hresolved, hsame, htext⟩ :=
        exists_pieces_resolve hcolumn (hgiven given List.mem_cons_self) h
      rw [List.foldl_cons, ← htext]
      obtain ⟨result, hresult, hsame', htext'⟩ :=
        ih hresolved (fun other hmem => hgiven other (List.mem_cons_of_mem _ hmem))
      exact ⟨result, hresult, hsame'.trans hsame, htext'⟩

end TimePanel.TimeAlias
