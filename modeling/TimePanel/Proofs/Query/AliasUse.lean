import Mathlib.Data.List.Basic
import TimePanel.Proofs.Query.Repetition
import TimePanel.Proofs.Text.Words

/-! Where resolving the aliases of a column changes a query. Only uses of aliases are to be changed,
but aliases are looked for as words: also at the head of a longer name, and in casts. -/

namespace TimePanel.TimeAlias

open Text

variable {column query given taken rest text word : List Char} {verb : String}

-- `CAST (`, up to where the column follows.
def IsCastOpening (opening : List Char) : Prop :=
  ∃ cast gap space, opening = cast ++ (gap ++ '(' :: space) ∧ Spells cast "cast".toList ∧
    (∀ c ∈ gap, isBlank c = true) ∧ ∀ c ∈ space, isBlank c = true

def EndsInCast (start : List Char) : Prop :=
  ∃ first opening, start = first ++ opening ∧ first.getLast?.any isWord = false ∧
    IsCastOpening opening

-- Whether a query gives an alias to the column, where the name of a type is no alias.
def IsGiven (column query given : List Char) : Prop :=
  ∃ start taken rest, query = start ++ (taken ++ rest) ∧ isQualified start.getLast? = false ∧
    IsOwn column given taken ∧ rest.head?.any isWord = false ∧ ¬ EndsInCast start

-- The changes that resolving aliases is for.
inductive IsProper (column query : List Char) (place : Place) : Prop
  -- The whole name by which is grouped or ordered is an alias, and the column is put in its place.
  | use (verb : String) (given : List Char) (hverb : verb ∈ verbs)
      (hmem : given ∈ aliases column query) (hgiven : IsGiven column query given)
      (huse : IsUse verb given place.taken) (hvalue : place.value = useOf verb column)
      (hwhole : place.rest.head?.any TimeColumn.isNamePart = false)
  -- An alias is dropped that is the column's own name.
  | own (given : List Char) (hsame : lower given = lower column)
      (hown : IsOwn column given place.taken) (hvalue : place.value = column)
      (hcast : ¬ EndsInCast place.start)

-- A use of an alias is out of place before a dot, or if nothing gives that alias to the column.
def UsedAmiss (column query : List Char) (verb : String) (given : List Char) :
    List Char → Prop :=
  Begins (IsUse verb given) fun rest => rest.head?.any isWord = false ∧
    (rest.head? = some '.' ∨ ¬ IsGiven column query given)

-- A cast to a type that is called as the column is.
def IsCast (column given : List Char) : List Char → Prop :=
  Begins (fun part => ∃ opening taken, part = opening ++ taken ∧ IsCastOpening opening ∧
    IsOwn column given taken) fun rest => rest.head?.any isWord = false

-- Whether no alias of the column stands in a query where it is none.
def IsClear (column query : List Char) : Prop :=
  ∀ given ∈ aliases column query,
    if lower given = lower column then ¬ Stands (IsCast column given) none query
    else ∀ verb ∈ verbs, ¬ Stands (UsedAmiss column query verb given) none query

-- The words around columns and aliases.
def linkWords : List String := ["group", "order", "by", "as", "cast"]

-- A column with a plain name, whose aliases cannot be taken for anything else.
structure IsOrdinary (column query : List Char) : Prop where
  name : IsName column
  head : column.head?.any isWord = true
  last : column.getLast?.any isWord = true
  words : ∀ link ∈ linkWords, Lacks (Spells · link.toList) none column
  -- Words stand at the same places however the column is spelled, as with all names of ASCII.
  spelled : ∀ name, Spells name column → name.map isWord = column.map isWord
  aliasWords : ∀ given ∈ aliases column query, ∀ link ∈ linkWords, ¬ Spells given link.toList
  aliasSpelled : ∀ given ∈ aliases column query, ∀ name, Spells name given →
    ∀ c ∈ name, isWord c = true
  -- Else what is put in for one alias can be read as a use of the next one.
  aliasApart : ∀ given ∈ aliases column query, lower given ≠ lower column →
    ¬ Spells given (column.takeWhile isWord)

-- In the first 128 code points words stand at the same places in every spelling of a name.
theorem map_isWord_of_spells {name : List Char}
    (hascii : (column.all fun c => c.toNat < 128 && TimeColumn.isNamePart c) = true)
    (h : Spells name column) : name.map isWord = column.map isWord := by
  induction column generalizing name with
  | nil =>
      obtain rfl : name = [] := List.map_eq_nil_iff.mp h
      rfl
  | cons d column ih =>
      obtain ⟨c, name, rfl, hkey, hrest⟩ := List.map_eq_cons_iff.mp h
      simp only [List.all_cons, Bool.and_eq_true, decide_eq_true_eq] at hascii
      obtain ⟨⟨hd, hpart⟩, hascii⟩ := hascii
      have hsame : isWord c = isWord d := by
        cases hword : isWord d with
        | true => exact isWord_of_caseKey_eq hd hword hkey
        | false =>
            obtain rfl : d = '.' := by simpa [TimeColumn.isNamePart, hword] using hpart
            rw [eq_mark_of_caseKey (by decide) hkey, hword]
      rw [List.map_cons, List.map_cons, hsame, ih hascii hrest]

theorem IsOrdinary.of_ascii
    (ascii : (column.all fun c => c.toNat < 128 && TimeColumn.isNamePart c) = true)
    (head : column.head?.any isWord = true) (last : column.getLast?.any isWord = true)
    (words : ∀ link ∈ linkWords, Lacks (Spells · link.toList) none column)
    (aliasAscii : ∀ given ∈ aliases column query,
      (given.all fun c => c.toNat < 128 && isWord c) = true)
    (aliasWords : ∀ given ∈ aliases column query, ∀ link ∈ linkWords, ¬ Spells given link.toList)
    (aliasApart : ∀ given ∈ aliases column query, lower given ≠ lower column →
      ¬ Spells given (column.takeWhile isWord)) : IsOrdinary column query where
  name c hc := (Bool.and_eq_true_iff.mp (List.all_eq_true.mp ascii c hc)).2
  head := head
  last := last
  words := words
  spelled _ := map_isWord_of_spells ascii
  aliasWords := aliasWords
  aliasSpelled given hmem _ hspells := hspells.forall_isWord_of_ascii (aliasAscii given hmem)
  aliasApart := aliasApart

theorem isRun_link {link : String} (hlink : link ∈ linkWords) (h : Spells word link.toList) :
    IsRun word := by
  have hascii : ∀ link ∈ linkWords, link.toList ≠ [] ∧
      (link.toList.all fun c => c.toNat < 128 && isWord c) = true := by decide
  obtain ⟨hne, hwords⟩ := hascii link hlink
  exact ⟨h.ne_nil hne, h.forall_isWord_of_ascii hwords⟩

-- The words are told apart in every spelling.
theorem link_inj {link other : String} (hlink : link ∈ linkWords) (hother : other ∈ linkWords)
    (h : Spells word link.toList) (h' : Spells word other.toList) : link = other := by
  have hapart : ∀ link ∈ linkWords, ∀ other ∈ linkWords,
      Spells link.toList other.toList → link = other := by decide
  exact hapart link hlink other hother (h.symm.trans h')

theorem exists_verbLink (hverb : verb ∈ verbs) :
    ∃ link ∈ linkWords, lower verb.toList = link.toList ∧ Spells verb.toList link.toList ∧
      link ≠ "by" ∧ link ≠ "as" ∧ link ≠ "cast" := by
  simp only [verbs, List.mem_cons, List.not_mem_nil, or_false] at hverb
  rcases hverb with rfl | rfl
  · exact ⟨"group", by decide, by decide, by decide, by decide, by decide, by decide⟩
  · exact ⟨"order", by decide, by decide, by decide, by decide, by decide, by decide⟩

section Phrase

variable {key name gap link space other : List Char}

-- What follows the first word of the use of an alias, or a column that is given one.
theorem lacks_after (hkey : key ≠ []) (hgap : IsGap gap) (hlink : IsRun link)
    (hlinked : ¬ Spells link key) (hspace : IsGap space) (hother : Lacks (Spells · key) none other)
    (before : Option Char) :
    Lacks (Spells · key) before (gap ++ (link ++ (space ++ other))) := by
  have hnil : ¬ Spells [] key := fun h => hkey (List.map_eq_nil_iff.mp h.symm)
  have hgap' : ∀ c ∈ gap, isWord c = false := fun c hc => isWord_of_isBlank (hgap.2 c hc)
  have hspace' : ∀ c ∈ space, isWord c = false := fun c hc => isWord_of_isBlank (hspace.2 c hc)
  exact (Lacks.of_gap hgap' hnil).append ((Lacks.of_word hlink.2 hlinked).append
    ((Lacks.of_gap hspace' hnil).append hother.mono (.of_gap hspace'))
    fun _ => hspace.head_append) (.of_gap hgap')

-- Two words and the blanks after them are told from what follows.
theorem phrase_inj {name' gap' link' space' text' : List Char} (hname : IsRun name)
    (hgap : IsGap gap) (hlink : IsRun link) (hspace : IsGap space)
    (htext : text.head?.any isWord = true) (hname' : IsRun name') (hgap' : IsGap gap')
    (hlink' : IsRun link') (hspace' : IsGap space') (htext' : text'.head?.any isWord = true)
    (heq : name ++ (gap ++ (link ++ (space ++ text))) =
      name' ++ (gap' ++ (link' ++ (space' ++ text')))) : text = text' := by
  obtain ⟨-, hafterName⟩ := run_inj heq hname.2 hgap.head_append hname'.2 hgap'.head_append
  obtain ⟨-, hafterGap⟩ := run_inj hafterName hgap.2 (any_isBlank_of_isWord hlink.head) hgap'.2
    (any_isBlank_of_isWord hlink'.head)
  obtain ⟨-, hafterLink⟩ := run_inj hafterGap hlink.2 hspace.head_append hlink'.2
    hspace'.head_append
  exact (run_inj hafterLink hspace.2 (any_isBlank_of_isWord htext) hspace'.2
    (any_isBlank_of_isWord htext')).2

theorem last_phrase (hother : IsRun other) :
    (name ++ (gap ++ (link ++ (space ++ other)))).getLast?.any isWord = true := by
  simp only [← List.append_assoc]
  rw [List.getLast?_append_of_ne_nil _ hother.1]
  exact hother.last

-- So nothing goes on after one.
theorem ends_phrase (name gap link space : List Char) (hother : IsRun other)
    (hrest : rest.head?.any isWord = false) :
    endsAtBoundary (name ++ (gap ++ (link ++ (space ++ (other ++ rest))))) rest = true ∧
      (name ++ (gap ++ (link ++ (space ++ (other ++ rest))))).length - rest.length =
        (name ++ (gap ++ (link ++ (space ++ other)))).length := by
  have hends := endsAtBoundary_append (name ++ (gap ++ (link ++ (space ++ other)))) rest
  rw [atBoundary, last_phrase hother, hrest] at hends
  refine ⟨by simpa using hends, ?_⟩
  simp only [List.length_append]
  omega

end Phrase

theorem any_isWord_of_isQualified {before : Option Char} (h : isQualified before = false) :
    before.any isWord = false := by
  cases before with
  | none => rfl
  | some c =>
      rw [← Bool.not_eq_true]
      intro hword
      rw [isQualified_of_isWord hword] at h
      cases h

section Words

variable {before : Option Char} (hgiven : ∀ word, Spells word given → IsRun word)

include hgiven

-- What the use of an alias is made of, where the alias is a word in every spelling.
theorem IsUse.exists_words (huse : IsUse verb given taken) (hverb : verb ∈ verbs) :
    ∃ start gap link space other, taken = start ++ (gap ++ (link ++ (space ++ other))) ∧
      Spells start (lower verb.toList) ∧ IsRun start ∧ IsGap gap ∧ Spells link "by".toList ∧
      IsRun link ∧ IsGap space ∧ Spells other given ∧ IsRun other := by
  obtain ⟨start, gap, link, space, other, htaken, hstart, hgap, hlink, hspace, hother⟩ := huse
  obtain ⟨verbLink, hverbLink, hlower, -⟩ := exists_verbLink hverb
  exact ⟨start, gap, link, space, other, htaken, hstart,
    isRun_link hverbLink (hlower ▸ hstart), hgap, hlink, isRun_link (by decide) hlink, hspace,
    hother, hgiven other hother⟩

-- Where it stands alone it is found.
theorem IsUse.recogniseUse_append (huse : IsUse verb given taken) (hverb : verb ∈ verbs)
    (hbefore : before.any isWord = false) (hrest : rest.head?.any isWord = false) :
    recogniseUse verb column given before (taken ++ rest) =
      some ⟨taken.length, useOf verb column⟩ := by
  obtain ⟨start, gap, link, space, other, rfl, hspells, hstart, hgap, hlink, hlinkRun, hspace,
    hother, hotherRun⟩ := huse.exists_words hgiven hverb
  obtain ⟨hends, hlength⟩ := ends_phrase start gap link space hotherRun hrest
  have hboundary : atBoundary before (start ++ (gap ++ (link ++ (space ++ (other ++ rest))))) =
      true := by
    rw [atBoundary, hbefore, hstart.head]
    rfl
  simp only [List.append_assoc, recogniseUse, hboundary, Option.bind_eq_bind,
    afterFolded?_append hspells, afterBlanks?_append hgap (any_isBlank_of_isWord hlinkRun.head),
    afterFolded?_append hlink, afterBlanks?_append hspace (any_isBlank_of_isWord hotherRun.head),
    afterFolded?_append hother, Option.bind_some, hends, hlength, useOf]
  rfl

theorem standAlone_own : StandAlone (recogniseOwn column given)
    fun taken value => IsOwn column given taken ∧ value = column := by
  intro before text hit hhit
  obtain ⟨hbefore, taken, rest, rfl, rfl, hafter, hown⟩ := recogniseOwn_split hhit
  have hlast : taken.getLast?.any isWord = true := by
    obtain ⟨name, gap, link, space, other, rfl, -, -, -, -, hother⟩ := hown
    exact last_phrase (hgiven other hother)
  rw [atBoundary, hlast] at hafter
  exact ⟨taken, rest, rfl, hown.ne_nil, rfl, any_isWord_of_isQualified hbefore, hlast,
    by simpa using hafter, hown, rfl⟩

end Words

-- What follows the word of a cast up to the column.
structure IsCastMarks (marks : List Char) : Prop where
  ne_nil : marks ≠ []
  words : ∀ c ∈ marks, isWord c = false
  last : isQualified marks.getLast? = false

theorem IsCastMarks.head_append {marks : List Char} (h : IsCastMarks marks) (rest : List Char) :
    (marks ++ rest).head?.any isWord = false := by
  rw [any_head?_append h.ne_nil]
  exact any_head?_eq_false h.words

theorem IsCastOpening.exists_parts {opening : List Char} (h : IsCastOpening opening) :
    ∃ cast marks, opening = cast ++ marks ∧ Spells cast "cast".toList ∧ IsRun cast ∧
      IsCastMarks marks := by
  obtain ⟨cast, gap, space, rfl, hcast, hgap, hspace⟩ := h
  have hblank {c : Char} (hc : isBlank c = true) : isQualified (some c) = false := by
    have hdollar : c ≠ '$' := by
      rintro rfl
      exact absurd hc (by decide)
    have hpart := isNamePart_of_isBlank hc
    simp only [TimeColumn.isNamePart, Bool.or_eq_false_iff] at hpart
    simp [isQualified, hpart, hdollar]
  have hlast : isQualified ('(' :: space).getLast? = false := by
    rw [List.getLast?_cons]
    cases hspaceLast : space.getLast? with
    | none => decide
    | some c => exact hblank (hspace c (List.mem_of_getLast? hspaceLast))
  refine ⟨cast, gap ++ '(' :: space, rfl, hcast, isRun_link (by decide) hcast, by simp, ?_, ?_⟩
  · have hbracket : isWord '(' = false := by decide
    simp only [List.forall_mem_append, List.forall_mem_cons]
    exact ⟨fun c hc => isWord_of_isBlank (hgap c hc), hbracket,
      fun c hc => isWord_of_isBlank (hspace c hc)⟩
  · rwa [List.getLast?_append_cons]

theorem IsCastOpening.ne_nil {opening : List Char} (h : IsCastOpening opening) : opening ≠ [] := by
  obtain ⟨cast, marks, rfl, -, hrun, -⟩ := h.exists_parts
  exact List.append_ne_nil_of_left_ne_nil hrun.1 marks

theorem IsCastOpening.first {opening : List Char} (h : IsCastOpening opening)
    (rest : List Char) : Spells ((opening ++ rest).takeWhile isWord) "cast".toList := by
  obtain ⟨cast, marks, rfl, hcast, hrun, hmarks⟩ := h.exists_parts
  rwa [List.append_assoc, takeWhile_run hrun.2 (hmarks.head_append rest)]

theorem IsCast.first (h : IsCast column given text) :
    Spells (text.takeWhile isWord) "cast".toList := by
  obtain ⟨_, rest, rfl, ⟨opening, taken, rfl, hopening, -⟩, -⟩ := h
  rw [List.append_assoc]
  exact hopening.first _

theorem IsCastOpening.isQualified_last {opening : List Char} (h : IsCastOpening opening)
    (start : List Char) : isQualified (start ++ opening).getLast? = false := by
  obtain ⟨cast, marks, rfl, -, -, hmarks⟩ := h.exists_parts
  rw [← List.append_assoc, List.getLast?_append_of_ne_nil _ hmarks.ne_nil]
  exact hmarks.last

theorem IsCastOpening.isParted {opening : List Char} (h : IsCastOpening opening)
    (rest : List Char) : IsParted opening rest := by
  obtain ⟨cast, marks, rfl, -, -, hmarks⟩ := h.exists_parts
  exact (IsParted.of_gap hmarks.words).append hmarks.ne_nil cast

theorem useOf_ne (verb : String) (column : List Char) : useOf verb column ≠ column := by
  intro h
  have hlength := congrArg List.length h
  simp only [useOf_eq, List.length_append, List.length_cons, List.length_nil] at hlength
  omega

theorem isGap_space : IsGap [' '] := ⟨by decide, List.forall_mem_singleton.mpr (by decide)⟩

theorem isRun_by : IsRun ['B', 'Y'] := ⟨by decide, List.all_eq_true.mp (by decide)⟩

theorem IsOwn.respell {other : List Char} (hother : Spells given other)
    (h : IsOwn column given taken) : IsOwn column other taken := by
  obtain ⟨name, gap, link, space, word, htaken, hname, hgap, hlink, hspace, hword⟩ := h
  exact ⟨name, gap, link, space, word, htaken, hname, hgap, hlink, hspace, hword.trans hother⟩

theorem IsCast.respell {other : List Char} (hother : Spells given other)
    (h : IsCast column given text) : IsCast column other text := by
  obtain ⟨_, rest, rfl, ⟨opening, taken, rfl, hopening, hown⟩, hrest⟩ := h
  exact ⟨_, rest, rfl, ⟨opening, taken, rfl, hopening, hown.respell hother⟩, hrest⟩

theorem IsGiven.respell {other : List Char} (hother : Spells given other)
    (h : IsGiven column query given) : IsGiven column query other := by
  obtain ⟨start, taken, rest, heq, hstart, hown, hrest, hcast⟩ := h
  exact ⟨start, taken, rest, heq, hstart, hown.respell hother, hrest, hcast⟩

namespace IsOrdinary

variable {key : List Char} {before : Option Char}

theorem isRun_alias (h : IsOrdinary column query) (hmem : given ∈ aliases column query)
    (hword : Spells word given) : IsRun word :=
  ⟨hword.ne_nil (isWord_of_mem_aliases hmem).1, h.aliasSpelled given hmem word hword⟩

-- An alias that is the column's own name is a spelling of it.
theorem spells_own (h : IsOrdinary column query) (hmem : given ∈ aliases column query)
    (hsame : lower given = lower column) : Spells given column := by
  have hdot : TimeColumn.isNamePart dotAbove = false := by decide
  refine spells_of_lower_eq (fun hgiven => ?_) (fun hcolumn => ?_) hsame
  · have hword := (isWord_of_mem_aliases hmem).2 _ hgiven
    simp [TimeColumn.isNamePart, hword] at hdot
  · have hpart := h.name _ hcolumn
    rw [hdot] at hpart
    cases hpart

theorem column_ne_nil (h : IsOrdinary column query) : column ≠ [] := by
  rintro rfl
  cases h.head

theorem lacks_name (h : IsOrdinary column query) {link : String} (hlink : link ∈ linkWords)
    {name : List Char} (hname : Spells name column) :
    Lacks (Spells · link.toList) none name :=
  Lacks.of_spells (fun hab ha => hab.symm.trans ha) hname (h.spelled name hname)
    (h.words link hlink)

-- What the use of an alias is made of.
theorem exists_parts (h : IsOrdinary column query) (hverb : verb ∈ verbs)
    (hmem : given ∈ aliases column query) (huse : IsUse verb given taken) :
    ∃ start gap link space other, taken = start ++ (gap ++ (link ++ (space ++ other))) ∧
      Spells start (lower verb.toList) ∧ IsRun start ∧ IsGap gap ∧ Spells link "by".toList ∧
      IsRun link ∧ IsGap space ∧ Spells other given ∧ IsRun other :=
  huse.exists_words (fun _ => h.isRun_alias hmem) hverb

theorem lacks_use (h : IsOrdinary column query) (hverb : verb ∈ verbs)
    (hmem : given ∈ aliases column query) (huse : IsUse verb given taken) (hkey : key ≠ [])
    (hby : ¬ Spells "by".toList key) (hgiven : ¬ Spells given key) :
    Lacks (Spells · key) taken.head? taken.tail := by
  obtain ⟨start, gap, link, space, other, rfl, -, hstart, hgap, hlink, hlinkRun, hspace, hother,
    hotherRun⟩ := h.exists_parts hverb hmem huse
  exact .tail_of_run hstart (lacks_after hkey hgap hlinkRun
    (fun hspells => hby (hlink.symm.trans hspells)) hspace
    (.of_word hotherRun.2 fun hspells => hgiven (hother.symm.trans hspells))) hgap.head_append

theorem lacks_own (h : IsOrdinary column query) (hmem : given ∈ aliases column query)
    (hown : IsOwn column given taken) {link : String} (hlink : link ∈ linkWords)
    (has : link ≠ "as") : Lacks (Spells · link.toList) none taken := by
  obtain ⟨name, gap, as, space, other, rfl, hname, hgap, hasSpells, hspace, hother⟩ := hown
  have hkey : link.toList ≠ [] := (isRun_link hlink rfl).1
  have hafter := lacks_after hkey hgap (isRun_link (by decide) hasSpells)
    (fun hspells => has (link_inj hlink (by decide) hspells hasSpells)) hspace
    (.of_word (h.isRun_alias hmem hother).2 fun hspells =>
      h.aliasWords given hmem link hlink (hother.symm.trans hspells))
  exact (h.lacks_name hlink hname).append (hafter _) fun _ => hgap.head_append

theorem lacks_useOf (h : IsOrdinary column query) (hverb : verb ∈ verbs) {link : String}
    (hlink : link ∈ linkWords) (hby : link ≠ "by") :
    Lacks (Spells · link.toList) (useOf verb column).head? (useOf verb column).tail := by
  obtain ⟨verbLink, hverbLink, -, hspells, -⟩ := exists_verbLink hverb
  have hkey : link.toList ≠ [] := (isRun_link hlink rfl).1
  have hapart : ¬ Spells ['B', 'Y'] link.toList := fun hspells =>
    hby (link_inj hlink (by decide) hspells (by decide))
  rw [useOf_eq]
  exact .tail_of_run (isRun_link hverbLink hspells) (lacks_after hkey isGap_space isRun_by hapart
    isGap_space (h.words link hlink)) isGap_space.head_append

-- The first word of the column is none of the words around it.
theorem not_spells_first (h : IsOrdinary column query) {link : String} (hlink : link ∈ linkWords) :
    ¬ Spells (column.takeWhile isWord) link.toList :=
  (h.words link hlink).not_first h.column_ne_nil

theorem first_ne_nil (h : IsOrdinary column query) : column.takeWhile isWord ≠ [] := by
  have hhead := h.head
  intro hnil
  rw [takeWhile_eq_nil_iff.mp hnil] at hhead
  cases hhead

-- Where a use of an alias stands alone it is found.
theorem recogniseUse_append (h : IsOrdinary column query) (hverb : verb ∈ verbs)
    (hmem : given ∈ aliases column query) (huse : IsUse verb given taken)
    (hbefore : before.any isWord = false) (hrest : rest.head?.any isWord = false) :
    recogniseUse verb column given before (taken ++ rest) =
      some ⟨taken.length, useOf verb column⟩ :=
  huse.recogniseUse_append (fun _ => h.isRun_alias hmem) hverb hbefore hrest

-- So is a column with its alias, unless it is part of a longer name.
theorem recogniseOwn_append (h : IsOrdinary column query) (hmem : given ∈ aliases column query)
    (hown : IsOwn column given taken) (hbefore : isQualified before = false)
    (hrest : rest.head?.any isWord = false) :
    recogniseOwn column given before (taken ++ rest) = some ⟨taken.length, column⟩ := by
  obtain ⟨name, gap, link, space, other, rfl, hname, hgap, hlink, hspace, hother⟩ := hown
  have hlinkRun : IsRun link := isRun_link (by decide) hlink
  have hotherRun := h.isRun_alias hmem hother
  obtain ⟨hends, hlength⟩ := ends_phrase name gap link space hotherRun hrest
  simp only [List.append_assoc, recogniseOwn, afterColumnAs?, hbefore, Bool.false_eq_true,
    ite_false, Option.bind_eq_bind, afterFolded?_append hname,
    afterBlanks?_append hgap (any_isBlank_of_isWord hlinkRun.head), afterFolded?_append hlink,
    afterBlanks?_append hspace (any_isBlank_of_isWord hotherRun.head), afterFolded?_append hother,
    Option.bind_some, hends, hlength, ite_true]

theorem standAlone_own (h : IsOrdinary column query) (hmem : given ∈ aliases column query) :
    StandAlone (recogniseOwn column given)
      fun taken value => IsOwn column given taken ∧ value = column :=
  TimeAlias.standAlone_own fun _ => h.isRun_alias hmem

theorem opens_use (h : IsOrdinary column query) (hverb : verb ∈ verbs)
    (hmem : given ∈ aliases column query) (huse : IsUse verb given taken) :
    Opens (Spells · (lower verb.toList)) taken (useOf verb column) := by
  obtain ⟨start, gap, link, space, other, rfl, hspells, hstart, hgap, -, -, -, hother, -⟩ :=
    h.exists_parts hverb hmem huse
  obtain ⟨verbLink, hverbLink, hlower, hverbSpells, -⟩ := exists_verbLink hverb
  have hrun := isRun_link hverbLink hverbSpells
  refine ⟨hstart.head, ?_, ?_, ?_, ?_⟩
  · rw [useOf_eq]
    exact hrun.head
  · rw [useOf, List.getLast?_append_of_ne_nil _ h.column_ne_nil]
    exact h.last
  · rwa [takeWhile_run hstart.2 hgap.head_append]
  · rwa [useOf_eq, takeWhile_run hrun.2 isGap_space.head_append, hlower]

theorem opens_own (h : IsOrdinary column query) (hown : IsOwn column given taken) :
    Opens (Spells · (column.takeWhile isWord)) taken column := by
  obtain ⟨name, gap, link, space, other, rfl, hname, hgap, -⟩ := hown
  have hwords := h.spelled name hname
  have hne := hname.ne_nil h.column_ne_nil
  have hhead : name.head?.any isWord = column.head?.any isWord := by
    have hfirst := congrArg List.head? hwords
    rw [List.head?_map, List.head?_map] at hfirst
    cases hn : name.head? <;> cases hc : column.head? <;> simp_all
  refine ⟨?_, h.head, h.last, ?_, rfl⟩
  · rw [any_head?_append hne, hhead, h.head]
  · rw [takeWhile_parted hne fun _ => hgap.head_append]
    exact spells_takeWhile hname hwords

-- What can be taken for the use of an alias or for a cast.
theorem isPhrase_use (h : IsOrdinary column query) (hverb : verb ∈ verbs)
    (hmem : given ∈ aliases column query) (hkey : key ≠ []) (hby : ¬ Spells "by".toList key)
    (hgiven : ¬ Spells given key) :
    IsPhrase (Spells · (lower verb.toList)) (Spells · key) (IsUse verb given)
      fun rest => rest.head?.any isWord = false ∧
        (rest.head? = some '.' ∨ ¬ IsGiven column query given) where
  opens part huse := by
    obtain ⟨start, gap, link, space, other, rfl, hspells, hstart, hgap, -⟩ :=
      h.exists_parts hverb hmem huse
    refine ⟨by simp [hgap.1], ?_⟩
    rwa [takeWhile_run hstart.2 hgap.head_append]
  lacks part huse := h.lacks_use hverb hmem huse hkey hby hgiven
  stops rest hends := hends.1
  looks rest other hhead hends := hhead ▸ hends

theorem isPhrase_cast (h : IsOrdinary column query) (hmem : given ∈ aliases column query)
    {link : String} (hlink : link ∈ linkWords) (has : link ≠ "as") :
    IsPhrase (Spells · "cast".toList) (Spells · link.toList)
      (fun part => ∃ opening taken, part = opening ++ taken ∧ IsCastOpening opening ∧
        IsOwn column given taken) fun rest => rest.head?.any isWord = false where
  opens part hpart := by
    obtain ⟨opening, taken, rfl, hopening, -⟩ := hpart
    exact ⟨List.append_ne_nil_of_left_ne_nil hopening.ne_nil taken, hopening.first taken⟩
  lacks part hpart := by
    obtain ⟨opening, taken, rfl, hopening, hown⟩ := hpart
    obtain ⟨cast, marks, rfl, -, hrun, hmarks⟩ := hopening.exists_parts
    have hnil : ¬ Spells [] link.toList := fun hspells =>
      (isRun_link hlink rfl).1 (List.map_eq_nil_iff.mp hspells.symm)
    have hafter (before : Option Char) : Lacks (Spells · link.toList) before (marks ++ taken) :=
      (Lacks.of_gap hmarks.words hnil).append (h.lacks_own hmem hown hlink has).mono
        (.of_gap hmarks.words)
    rw [List.append_assoc]
    exact .tail_of_run hrun hafter (hmarks.head_append taken)
  stops rest hends := hends
  looks rest other hhead hends := hhead ▸ hends

-- Putting the column in place of an alias makes nothing of the sort.
theorem respects_use (h : IsOrdinary column query) (hverb : verb ∈ verbs)
    (hmem : given ∈ aliases column query) {link : String} (hlink : link ∈ linkWords)
    (hby : link ≠ "by") {kind : List Char → Prop}
    (hkind : ∀ rest, rest.head?.any isWord = false → ¬ kind (useOf verb column ++ rest))
    (huse : IsUse verb given taken) :
    Respects (Spells · link.toList) (Spells · (lower verb.toList)) kind taken
      (useOf verb column) :=
  ⟨h.opens_use hverb hmem huse,
    h.lacks_use hverb hmem huse (isRun_link hlink rfl).1
      (fun hspells => hby (link_inj hlink (by decide) rfl hspells.symm))
      (h.aliasWords given hmem link hlink),
    h.lacks_useOf hverb hlink hby, hkind⟩

-- Nor does dropping an alias.
theorem respects_own (h : IsOrdinary column query) (hmem : given ∈ aliases column query)
    {link : String} (hlink : link ∈ linkWords) (has : link ≠ "as") {kind : List Char → Prop}
    (hkind : ∀ rest, rest.head?.any isWord = false → ¬ kind (column ++ rest))
    (hown : IsOwn column given taken) :
    Respects (Spells · link.toList) (Spells · (column.takeWhile isWord)) kind taken column :=
  ⟨h.opens_own hown, (h.lacks_own hmem hown hlink has).tail, (h.words link hlink).tail, hkind⟩

theorem use_inj (h : IsOrdinary column query) {verb' : String} {given' taken' rest' : List Char}
    (hverb : verb ∈ verbs) (hmem : given ∈ aliases column query) (huse : IsUse verb given taken)
    (hrest : rest.head?.any isWord = false) (hverb' : verb' ∈ verbs)
    (hmem' : given' ∈ aliases column query) (huse' : IsUse verb' given' taken')
    (hrest' : rest'.head?.any isWord = false) (heq : taken ++ rest = taken' ++ rest') :
    Spells given given' ∧ rest = rest' := by
  obtain ⟨start, gap, link, space, other, rfl, -, hstart, hgap, -, hlink, hspace, hother,
    hrun⟩ := h.exists_parts hverb hmem huse
  obtain ⟨start', gap', link', space', other', rfl, -, hstart', hgap', -, hlink', hspace', hother',
    hrun'⟩ := h.exists_parts hverb' hmem' huse'
  simp only [List.append_assoc] at heq
  have hafter := phrase_inj hstart hgap hlink hspace hrun.head hstart' hgap' hlink' hspace'
    hrun'.head heq
  obtain ⟨rfl, hends⟩ := run_inj hafter hrun.2 hrest hrun'.2 hrest'
  exact ⟨hother.symm.trans hother', hends⟩

-- The use of the column is none of another alias.
theorem not_usedAmiss_useOf (h : IsOrdinary column query) {verb' : String} (hverb : verb ∈ verbs)
    (hverb' : verb' ∈ verbs) (hmem : given ∈ aliases column query)
    (hother : lower given ≠ lower column) (hrest : rest.head?.any isWord = false) :
    ¬ UsedAmiss column query verb' given (useOf verb column ++ rest) := by
  rintro ⟨part, more, heq, huse, hmore, -⟩
  obtain ⟨start, gap, link, space, word, rfl, -, hstart, hgap, -, hlink, hspace, hword, hrun⟩ :=
    h.exists_parts hverb' hmem huse
  obtain ⟨verbLink, hverbLink, -, hspells, -⟩ := exists_verbLink hverb
  have hhead : (column ++ rest).head?.any isWord = true := by
    rw [any_head?_append h.column_ne_nil, h.head]
  rw [useOf_eq] at heq
  simp only [List.append_assoc] at heq
  have hafter := phrase_inj (isRun_link hverbLink hspells) isGap_space isRun_by
    isGap_space hhead hstart hgap hlink hspace hrun.head heq
  have hfirst : column.takeWhile isWord = word := by
    rw [← takeWhile_parted h.column_ne_nil fun _ => hrest, hafter, takeWhile_run hrun.2 hmore]
  exact h.aliasApart given hmem hother (hfirst ▸ hword.symm)

theorem standAlone_use (h : IsOrdinary column query) (hverb : verb ∈ verbs)
    (hmem : given ∈ aliases column query) : StandAlone (recogniseUse verb column given)
      fun taken value => IsUse verb given taken ∧ value = useOf verb column :=
  TimeAlias.standAlone_use hverb (isWord_of_mem_aliases hmem).1 fun _ hword =>
    (h.isRun_alias hmem hword).2

end IsOrdinary

end TimePanel.TimeAlias
