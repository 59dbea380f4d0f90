import TimePanel.Proofs.Query.Interpolation
import TimePanel.Proofs.Text.Runs

/-! What the passes over a query do to its weight: to its dollar signs, to its blanks and at signs,
and to the places where it names the time column. -/

namespace TimePanel

open Text

theorem TimeMacro.turns_recognise (timeMacro : TimeMacro) (value : List Char) :
    Turns (timeMacro.recognise value) fun taken put => taken = timeMacro.token ∧ put = value := by
  intro before text hit hhit
  obtain ⟨rest, rfl, -, rfl⟩ := recognise_eq_some_iff.mp hhit
  exact ⟨timeMacro.token, rest, rfl, timeMacro.token_ne_nil, rfl, rfl, rfl⟩

namespace Misuse

theorem hit_append (taken rest value : List Char) :
    hit (taken ++ rest) rest value = ⟨taken.length, value⟩ := by
  simp [hit]

theorem turns_blanks : Turns recogniseBlanks fun taken value =>
    ∃ gap, taken = '$' :: (gap ++ filterToken.drop 1) ∧ IsGap gap ∧ value = filterToken := by
  intro before text hit hhit
  unfold recogniseBlanks at hhit
  split at hhit
  · next rest =>
    simp only [Option.bind_eq_bind, Option.bind_eq_some_iff, Option.some.injEq] at hhit
    obtain ⟨name, hname, after, hafter, rfl⟩ := hhit
    obtain ⟨gap, rfl, hgap⟩ := afterBlanks?_split hname
    obtain rfl := after?_eq_some_iff.mp hafter
    refine ⟨'$' :: (gap ++ filterToken.drop 1), after, by simp, by simp, ?_, gap, rfl, hgap, rfl⟩
    simp only [Misuse.hit, List.length_cons, List.length_append]
    omega
  · cases hhit

-- The words before the name of a table.
def IsTableWord (keyword : List Char) : Prop :=
  Spells keyword "from".toList ∨ Spells keyword "join".toList

theorem IsTableWord.isWord {keyword : List Char} (h : IsTableWord keyword) :
    keyword ≠ [] ∧ ∀ c ∈ keyword, isWord c = true := by
  rcases h with h | h
  · exact ⟨h.ne_nil (by decide), h.forall_isWord_of_ascii (by decide)⟩
  · exact ⟨h.ne_nil (by decide), h.forall_isWord_of_ascii (by decide)⟩

theorem afterTableWord_eq_some_iff {text rest : List Char} :
    (afterFolded? "from".toList text <|> afterFolded? "join".toList text) = some rest ↔
      ∃ keyword, text = keyword ++ rest ∧ IsTableWord keyword := by
  rw [Option.orElse_eq_orElse, Option.orElse_eq_or, Option.or_eq_some_iff]
  constructor
  · rintro (h | ⟨-, h⟩)
    · obtain ⟨keyword, rfl, hkeyword⟩ := afterFolded?_split h
      exact ⟨keyword, rfl, .inl hkeyword⟩
    · obtain ⟨keyword, rfl, hkeyword⟩ := afterFolded?_split h
      exact ⟨keyword, rfl, .inr hkeyword⟩
  · rintro ⟨keyword, rfl, h | h⟩
    · exact .inl (afterFolded?_append h rest)
    · refine .inr ⟨?_, afterFolded?_append h rest⟩
      -- Both words are told apart by their first letters.
      obtain ⟨c, keyword, rfl, hkey, -⟩ := List.map_eq_cons_iff.mp h
      have hdiffers : ¬ sameLetter 'f' c = true := by
        rw [sameLetter, hkey]
        decide
      exact if_neg hdiffers

theorem hit_atSign (keyword gap name rest : List Char) :
    hit (keyword ++ (gap ++ '@' :: (name ++ rest))) rest
        ((keyword ++ (gap ++ '@' :: (name ++ rest))).take
          ((keyword ++ (gap ++ '@' :: (name ++ rest))).length - (name ++ rest).length - 1) ++ name) =
      ⟨(keyword ++ (gap ++ '@' :: name)).length, keyword ++ (gap ++ name)⟩ := by
  have htext : keyword ++ (gap ++ '@' :: (name ++ rest)) =
      keyword ++ (gap ++ '@' :: name) ++ rest := by simp
  have hstart : (keyword ++ (gap ++ '@' :: (name ++ rest))).take
      ((keyword ++ (gap ++ '@' :: (name ++ rest))).length - (name ++ rest).length - 1) =
        keyword ++ gap := by
    rw [← List.append_assoc, List.take_left']
    simp only [List.length_append, List.length_cons]
    omega
  rw [hstart, htext, hit_append, List.append_assoc]

theorem recogniseAtSign_eq_some_iff {before : Option Char} {text : List Char} {found : Hit} :
    recogniseAtSign before text = some found ↔
      before.any isWord = false ∧ ∃ keyword gap name rest,
        text = keyword ++ (gap ++ '@' :: (name ++ rest)) ∧ IsTableWord keyword ∧ IsGap gap ∧
        name ≠ [] ∧ (∀ c ∈ name, isWord c = true) ∧ rest.head?.any isWord = false ∧
        found = ⟨(keyword ++ (gap ++ '@' :: name)).length, keyword ++ (gap ++ name)⟩ := by
  have hboundary {keyword rest : List Char} (h : IsTableWord keyword) :
      atBoundary before (keyword ++ rest) = !before.any isWord := by
    obtain ⟨hne, hword⟩ := h.isWord
    obtain ⟨c, keyword, rfl⟩ := List.exists_cons_of_ne_nil hne
    simp [atBoundary, hword c List.mem_cons_self]
  constructor
  · intro h
    unfold recogniseAtSign at h
    split at h
    · cases h
    · next hbefore =>
      simp only [Option.bind_eq_bind, Option.bind_eq_some_iff] at h
      obtain ⟨rest, hrest, after, hafter, h⟩ := h
      obtain ⟨keyword, rfl, hkeyword⟩ := afterTableWord_eq_some_iff.mp hrest
      obtain ⟨gap, rfl, hgap⟩ := afterBlanks?_split hafter
      rw [hboundary hkeyword] at hbefore
      split at h
      · next table =>
        rw [List.span_eq_takeWhile_dropWhile] at h
        split at h
        · cases h
        · next hne =>
          have hhit := hit_atSign keyword gap (table.takeWhile isWord) (table.dropWhile isWord)
          rw [List.takeWhile_append_dropWhile] at hhit
          rw [Option.some.injEq, hhit] at h
          exact ⟨by simpa using hbefore, keyword, gap, table.takeWhile isWord,
            table.dropWhile isWord, by simp, hkeyword, hgap, by simpa using hne,
            fun c hc => List.all_eq_true.mp List.all_takeWhile c hc, any_head?_dropWhile _ _, h.symm⟩
      · cases h
  · rintro ⟨hbefore, keyword, gap, name, rest, rfl, hkeyword, hgap, hne, hname, hrest, rfl⟩
    have hblanks : afterBlanks? (gap ++ '@' :: (name ++ rest)) = some ('@' :: (name ++ rest)) :=
      afterBlanks?_append hgap (show isBlank '@' = false by decide)
    rw [recogniseAtSign, hboundary hkeyword, hbefore]
    simp only [Option.bind_eq_bind, afterTableWord_eq_some_iff.mpr ⟨keyword, rfl, hkeyword⟩,
      Option.bind_some, hblanks, span_run hname hrest]
    rw [if_neg (by decide), if_neg (by simpa using hne), hit_atSign]

theorem turns_atSign : Turns recogniseAtSign fun taken value =>
    ∃ start name, taken = start ++ '@' :: name ∧ value = start ++ name := by
  intro before text hit hhit
  obtain ⟨-, keyword, gap, name, rest, rfl, -, -, -, -, -, rfl⟩ := recogniseAtSign_eq_some_iff.mp hhit
  exact ⟨keyword ++ (gap ++ '@' :: name), rest, by simp, by simp, rfl, keyword ++ gap, name,
    by simp, by simp⟩

end Misuse

namespace TimeAlias

variable {column given : List Char} {verb : String}

theorem turns_own : Turns (recogniseOwn column given) fun taken value =>
    IsOwn column given taken ∧ value = column := by
  intro before text hit hhit
  obtain ⟨-, taken, rest, heq, rfl, -, hown⟩ := recogniseOwn_split hhit
  exact ⟨taken, rest, heq, hown.ne_nil, rfl, hown, rfl⟩

theorem turns_use (hverb : verb ∈ verbs) : Turns (recogniseUse verb column given)
    fun taken value => IsUse verb given taken ∧ value = useOf verb column := by
  intro before text hit hhit
  obtain ⟨-, taken, rest, heq, rfl, -, huse⟩ := recogniseUse_split hhit
  have hne : taken ≠ [] := by
    obtain ⟨c, more, rfl, -⟩ := huse.head hverb
    simp
  exact ⟨taken, rest, heq, hne, rfl, huse, rfl⟩

-- Where every spelling of the alias is a word, so are both ends of a use.
theorem standAlone_use (hverb : verb ∈ verbs) (hgiven : given ≠ [])
    (hspelled : ∀ spelling, Spells spelling given → ∀ c ∈ spelling, isWord c = true) :
    StandAlone (recogniseUse verb column given)
      fun taken value => IsUse verb given taken ∧ value = useOf verb column := by
  intro before text hit hhit
  obtain ⟨hbefore, taken, rest, rfl, rfl, hafter, huse⟩ := recogniseUse_split hhit
  have hfirst : before.any isWord = false := by
    obtain ⟨c, more, rfl, hword, -⟩ := huse.head hverb
    simpa [atBoundary, hword] using hbefore
  have hlast : ∃ last, taken.getLast? = some last ∧ isWord last = true := by
    obtain ⟨start, gap, link, space, other, rfl, -, -, -, -, hother⟩ := huse
    obtain ⟨last, hlast⟩ : ∃ last, other.getLast? = some last := by
      rw [← Option.isSome_iff_exists, List.getLast?_isSome]
      exact hother.ne_nil hgiven
    exact ⟨last, by simp [List.getLast?_append, hlast],
      hspelled _ hother _ (List.mem_of_getLast? hlast)⟩
  obtain ⟨last, hlast, hword⟩ := hlast
  refine ⟨taken, rest, rfl, ?_, rfl, hfirst, ?_, ?_, huse, rfl⟩
  · rintro rfl
    cases hlast
  · simp [hlast, hword]
  · simpa [atBoundary, hlast, hword] using hafter

end TimeAlias

section

variable {column given : List Char} {verb : String}

-- The dollar signs of a text, then its blanks, then its at signs.
def bulk : List Char → Int ×ₗ Int ×ₗ Int :=
  both (tally (· = '$')) (both (tally isBlank) (tally (· = '@')))

theorem countP_eq_zero_of_not_mem {mark : Char} {text : List Char} (h : mark ∉ text) :
    text.countP (· = mark) = 0 := by
  rw [List.countP_eq_zero]
  rintro c hc heq
  exact h (of_decide_eq_true heq ▸ hc)

theorem lightensAtHits_bulk_macro (timeMacro : TimeMacro) {value : List Char}
    (hvalue : '$' ∉ value) : LightensAtHits bulk (timeMacro.recognise value) := by
  refine LightensAtHits.first (lightensAtHits_tally ?_) _
  refine (timeMacro.turns_recognise value).mono ?_
  rintro taken put ⟨rfl, rfl⟩
  obtain ⟨tail, htoken, -⟩ := timeMacro.token_eq
  rw [countP_eq_zero_of_not_mem hvalue, htoken]
  simp

theorem countP_gap_pos {gap : List Char} (h : IsGap gap) : 0 < gap.countP isBlank := by
  rw [List.countP_pos_iff]
  obtain ⟨c, rest, rfl⟩ := List.exists_cons_of_ne_nil h.1
  exact ⟨c, List.mem_cons_self, h.2 c List.mem_cons_self⟩

theorem lightensAtHits_bulk_blanks : LightensAtHits bulk Misuse.recogniseBlanks := by
  refine .second (.first (lightensAtHits_tally ?_) _) (lightens_tally ?_)
  · refine Misuse.turns_blanks.mono ?_
    rintro taken value ⟨gap, rfl, hgap, rfl⟩
    have hpos := countP_gap_pos hgap
    have htoken : Misuse.filterToken.countP isBlank = 0 := by decide
    simp only [htoken, List.countP_cons, List.countP_append]
    omega
  · refine Misuse.turns_blanks.mono ?_
    rintro taken value ⟨gap, rfl, -, rfl⟩
    have htoken : Misuse.filterToken.countP (· = '$') = 1 := by decide
    simp only [htoken, List.countP_cons]
    simp

theorem lightensAtHits_bulk_atSign : LightensAtHits bulk Misuse.recogniseAtSign := by
  have hle {p : Char → Bool} : Turns Misuse.recogniseAtSign fun taken value =>
      value.countP p ≤ taken.countP p := by
    refine Misuse.turns_atSign.mono ?_
    rintro taken value ⟨start, name, rfl, rfl⟩
    simp only [List.countP_append, List.countP_cons]
    omega
  refine .second (.second (lightensAtHits_tally ?_) (lightens_tally hle)) (lightens_tally hle)
  refine Misuse.turns_atSign.mono ?_
  rintro taken value ⟨start, name, rfl, rfl⟩
  simp [List.countP_append]

-- A name of words and dots, such as a table or a column has.
def IsName (column : List Char) : Prop := ∀ c ∈ column, TimeColumn.isNamePart c = true

theorem IsName.countP_eq_zero (hname : IsName column) {p : Char → Bool}
    (hp : ∀ c, p c = true → TimeColumn.isNamePart c = false) : column.countP p = 0 := by
  rw [List.countP_eq_zero]
  intro c hc hpc
  have hpart := hname c hc
  rw [hp c hpc] at hpart
  cases hpart

theorem IsName.dollar_not_mem (hname : IsName column) : '$' ∉ column :=
  fun hmem => absurd (hname _ hmem) (by decide)

theorem isNamePart_of_isBlank {c : Char} (h : isBlank c = true) :
    TimeColumn.isNamePart c = false := by
  have hdot : c ≠ '.' := by
    rintro rfl
    exact absurd h (by decide)
  simp [TimeColumn.isNamePart, isWord_of_isBlank h, hdot]

theorem isNamePart_of_eq {c mark : Char} (hmark : TimeColumn.isNamePart mark = false)
    (h : decide (c = mark) = true) : TimeColumn.isNamePart c = false :=
  of_decide_eq_true h ▸ hmark

theorem lightensAtHits_bulk_own (hname : IsName column) :
    LightensAtHits bulk (TimeAlias.recogniseOwn column given) := by
  refine .second (.first (lightensAtHits_tally ?_) _) (lightens_tally ?_)
  · refine TimeAlias.turns_own.mono ?_
    rintro taken value ⟨⟨name, gap, link, space, other, rfl, -, hgap, -⟩, rfl⟩
    have hpos := countP_gap_pos hgap
    rw [hname.countP_eq_zero fun _ => isNamePart_of_isBlank]
    simp only [List.countP_append]
    omega
  · refine TimeAlias.turns_own.mono ?_
    rintro taken value ⟨-, rfl⟩
    rw [hname.countP_eq_zero fun _ => isNamePart_of_eq (by decide)]
    exact Nat.zero_le _

-- The letters of what is put in before a column.
def capitals : List Char := ['G', 'R', 'O', 'U', 'P', 'D', 'E', 'B', 'Y']

theorem countP_useOf (hverb : verb ∈ TimeAlias.verbs) (column : List Char) {p : Char → Bool}
    (hp : capitals.all (!p ·) = true) :
    (TimeAlias.useOf verb column).countP p = 2 * [' '].countP p + column.countP p := by
  have hzero (word : List Char) (hword : word.all capitals.contains = true) :
      word.countP p = 0 := by
    rw [List.countP_eq_zero]
    intro c hc
    have hcapital := List.contains_iff_mem.mp (List.all_eq_true.mp hword c hc)
    simpa using List.all_eq_true.mp hp c hcapital
  have hverb' : verb.toList.all capitals.contains = true := by
    simp only [TimeAlias.verbs, List.mem_cons, List.not_mem_nil, or_false] at hverb
    rcases hverb with rfl | rfl <;> decide
  have hby : " BY ".toList = [' '] ++ ['B', 'Y'] ++ [' '] := rfl
  simp only [TimeAlias.useOf, hby, List.countP_append, hzero _ hverb',
    hzero ['B', 'Y'] (by decide)]
  omega

theorem lightens_bulk_use (hname : IsName column) (hverb : verb ∈ TimeAlias.verbs) :
    Lightens bulk (TimeAlias.recogniseUse verb column given) := by
  -- Marks that stand neither in names nor in the words before them are not put in at all.
  have hnone {mark : Char} (hmark : TimeColumn.isNamePart mark = false)
      (hcapitals : capitals.all (fun c => !decide (c = mark)) = true) (hblank : ' ' ≠ mark) :
      Turns (TimeAlias.recogniseUse verb column given) fun taken value =>
        value.countP (· = mark) ≤ taken.countP (· = mark) := by
    refine (TimeAlias.turns_use hverb).mono ?_
    rintro taken value ⟨-, rfl⟩
    rw [countP_useOf hverb column hcapitals, hname.countP_eq_zero fun _ => isNamePart_of_eq hmark]
    simp [hblank]
  refine .both (lightens_tally (hnone (by decide) (by decide) (by decide)))
    (.both (lightens_tally ?_) (lightens_tally (hnone (by decide) (by decide) (by decide))))
  refine (TimeAlias.turns_use hverb).mono ?_
  rintro taken value ⟨⟨start, gap, link, space, other, rfl, -, hgap, -, hspace, -⟩, rfl⟩
  have hpos := countP_gap_pos hgap
  have hmore := countP_gap_pos hspace
  rw [countP_useOf hverb column (by decide), hname.countP_eq_zero fun _ => isNamePart_of_isBlank]
  simp only [List.countP_append, show [' '].countP isBlank = 1 by decide]
  omega

-- How often a text has the column, made negative. A column with dots is counted by its dots.
def naming (column text : List Char) : Int :=
  if '.' ∈ column then -tally (· = '.') text else -(countWord column false text : Int)

-- The words that stand before an alias where it is used.
def keywords : List String := ["group", "order", "by"]

-- Whether a column has a dot, or no spelling of an alias or of the words before it is the column.
def IsApart (column given : List Char) : Prop :=
  '.' ∈ column ∨ column ≠ [] ∧
    (∀ keyword ∈ keywords, ¬ Spells column keyword.toList) ∧
    ∀ spelling, Spells spelling given → spelling ≠ column ∧ ∀ c ∈ spelling, isWord c = true

theorem countWord_keyword {keyword : String} (hkeyword : keyword ∈ keywords) {spelling : List Char}
    (h : Spells spelling keyword.toList) (hcolumn : ¬ Spells column keyword.toList) :
    countWord column false spelling = 0 := by
  have hletters : keyword.toList ≠ [] ∧ keyword.toList.all keywordLetters.contains = true := by
    simp only [keywords, List.mem_cons, List.not_mem_nil, or_false] at hkeyword
    rcases hkeyword with rfl | rfl | rfl <;> decide
  rw [countWord_self (h.ne_nil hletters.1) (h.forall_isWord hletters.2), if_neg]
  rintro rfl
  exact hcolumn h

-- The column is named once where it is used, and not at all where an alias is.
theorem countWord_taken {taken : List Char} (hverb : verb ∈ TimeAlias.verbs)
    (hgiven : given ≠ []) (hcolumn : column ≠ [])
    (hkeywords : ∀ keyword ∈ keywords, ¬ Spells column keyword.toList)
    (hspelled : ∀ spelling, Spells spelling given →
      spelling ≠ column ∧ ∀ c ∈ spelling, isWord c = true)
    (h : TimeAlias.IsUse verb given taken) : countWord column false taken = 0 := by
  obtain ⟨start, gap, link, space, other, rfl, hstart, hgap, hlink, hspace, hother⟩ := h
  have hkeyword : ∃ keyword ∈ keywords, lower verb.toList = keyword.toList := by
    simp only [TimeAlias.verbs, List.mem_cons, List.not_mem_nil, or_false] at hverb
    rcases hverb with rfl | rfl
    · exact ⟨"group", by decide, by decide⟩
    · exact ⟨"order", by decide, by decide⟩
  obtain ⟨keyword, hkeyword, hlower⟩ := hkeyword
  rw [hlower] at hstart
  obtain ⟨hne, hwords⟩ := hspelled other hother
  rw [countWord_spaced hcolumn hgap.1 (fun c hc => isWord_of_isBlank (hgap.2 c hc)),
    countWord_spaced hcolumn hspace.1 (fun c hc => isWord_of_isBlank (hspace.2 c hc)),
    countWord_keyword hkeyword hstart (hkeywords _ hkeyword),
    countWord_keyword (by decide) hlink (hkeywords _ (by decide)),
    countWord_self (hother.ne_nil hgiven) hwords, if_neg hne]

theorem countWord_useOf (verb : String) (hcolumn : column ≠ [])
    (hwords : ∀ c ∈ column, isWord c = true) :
    0 < countWord column false (TimeAlias.useOf verb column) := by
  have hspace : ∀ c ∈ [' '], isWord c = false := by
    intro c hc
    obtain rfl := List.mem_singleton.mp hc
    decide
  rw [TimeAlias.useOf_eq, countWord_spaced hcolumn (by decide) hspace,
    countWord_spaced hcolumn (by decide) hspace,
    countWord_self hcolumn hwords, if_pos rfl]
  omega

theorem lightensAtHits_dots (hdot : '.' ∈ column) (hverb : verb ∈ TimeAlias.verbs)
    (hwords : ∀ c ∈ given, isWord c = true) :
    LightensAtHits (fun text => -tally (· = '.') text)
      (TimeAlias.recogniseUse verb column given) := by
  refine lightensAtHits_neg_tally ((TimeAlias.turns_use hverb).mono ?_)
  rintro taken value ⟨huse, rfl⟩
  have hfree : '.' ∉ given := fun hmem => absurd (hwords _ hmem) (by decide)
  have hsome : 0 < column.countP (· = '.') := by
    simpa [List.countP_pos_iff] using hdot
  rw [countP_eq_zero_of_not_mem (huse.mark_not_mem hverb (by decide) hfree),
    countP_useOf hverb column (by decide)]
  omega

theorem IsName.forall_isWord (hname : IsName column) (hdot : '.' ∉ column) :
    ∀ c ∈ column, isWord c = true := by
  intro c hc
  have hpart := hname c hc
  have hother : c ≠ '.' := by
    rintro rfl
    exact hdot hc
  simpa [TimeColumn.isNamePart, hother] using hpart

-- Putting the column in place of an alias names it once more.
theorem lightensAtHits_naming (hname : IsName column) (hapart : IsApart column given)
    (hverb : verb ∈ TimeAlias.verbs) (hgiven : given ≠ []) (hwords : ∀ c ∈ given, isWord c = true) :
    LightensAtHits (naming column) (TimeAlias.recogniseUse verb column given) := by
  by_cases hdot : '.' ∈ column
  · have hnaming : naming column = fun text => -tally (· = '.') text := by
      funext text
      rw [naming, if_pos hdot]
    rw [hnaming]
    exact lightensAtHits_dots hdot hverb hwords
  · have hnaming : naming column = fun text => -(countWord column false text : Int) := by
      funext text
      rw [naming, if_neg hdot]
    rw [hnaming]
    obtain ⟨hne, hkeywords, hspelled⟩ := hapart.resolve_left hdot
    refine lightensAtHits_countWord hne
      ((TimeAlias.standAlone_use hverb hgiven fun _ h => (hspelled _ h).2).mono ?_)
    rintro taken value ⟨huse, rfl⟩
    exact ⟨countWord_taken hverb hgiven hne hkeywords hspelled huse,
      countWord_useOf verb hne (hname.forall_isWord hdot)⟩

end

end TimePanel
