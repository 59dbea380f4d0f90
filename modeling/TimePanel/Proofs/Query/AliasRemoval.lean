import TimePanel.Proofs.Query.AliasUse
import TimePanel.Proofs.Text.Phrase

/-! Once the aliases of a column are resolved, nothing groups or orders by one of them. The column
that comes in place of one alias makes no use of another one, though an alias can be called as the
words around it are. -/

namespace TimePanel.TimeAlias

open Text

variable {column query given taken value text : List Char} {verb : String}

-- Whether a text groups or orders by a name, in some spelling.
def IsUsedIn (verb : String) (name text : List Char) : Prop :=
  Stands (Begins (IsUse verb name) fun rest => rest.head?.any isWord = false) none text

-- The words of a use after its verb.
def laterWords (given : List Char) : List (List Char → Prop) :=
  [(Spells · "by".toList), (Spells · given)]

theorem begins_use_eq (hverb : verb ∈ verbs) (hgiven : ∀ word, Spells word given → IsRun word) :
    (Begins (IsUse verb given) fun rest => rest.head?.any isWord = false) =
      Phrase ((Spells · (lower verb.toList)) :: laterWords given) := by
  funext text
  refine propext ⟨?_, fun h => ?_⟩
  · rintro ⟨_, rest, rfl, huse, hrest⟩
    obtain ⟨start, gap, link, space, other, rfl, hspells, hstart, hgap, hby, hlink, hspace, hname,
      hother⟩ := huse.exists_words hgiven hverb
    simp only [List.append_assoc]
    exact .more hstart hspells hgap (.more hlink hby hspace (.last hother hname hrest))
  · cases h with
    | more hstart hspells hgap h =>
    cases h with
    | more hlink hby hspace h =>
    cases h with
    | last hother hname hrest =>
        exact ⟨_, _, by simp [List.append_assoc],
          ⟨_, _, _, _, _, rfl, hspells, hgap, hby, hspace, hname⟩, hrest⟩
    | more _ _ _ h => cases h

-- A column of one word that is none of those around aliases, where all aliases are words and no
-- spelling of another one is the column.
structure IsWordApart (column query : List Char) : Prop where
  words : ∀ word, Spells word column → IsRun word
  apart : ∀ keyword ∈ keywords, ¬ Spells column keyword.toList
  aliasWords : ∀ given ∈ aliases column query, ∀ word, Spells word given → IsRun word
  aliasApart : ∀ given ∈ aliases column query, lower given ≠ lower column → ¬ Spells column given

theorem suffix_of_afterColumnAs? {before : Option Char} {after : List Char}
    (h : afterColumnAs? column before text = some after) : after <:+ text := by
  simp only [afterColumnAs?, Option.bind_eq_bind] at h
  split at h
  · cases h
  · simp only [Option.bind_eq_some_iff] at h
    obtain ⟨afterName, htext, afterGap, hname, afterLink, hgap, hlink⟩ := h
    obtain ⟨name, rfl, -⟩ := afterFolded?_split htext
    obtain ⟨gap, rfl, -⟩ := afterBlanks?_split hname
    obtain ⟨link, rfl, -⟩ := afterFolded?_split hgap
    obtain ⟨space, rfl, -⟩ := afterBlanks?_split hlink
    exact ⟨name ++ (gap ++ (link ++ space)), by simp⟩

-- An alias has only characters of the query.
theorem subset_of_mem_aliases (h : given ∈ aliases column query) : given ⊆ query := by
  obtain ⟨start, rest, after, rfl, hafter, rfl, -⟩ := exists_place_of_mem_aliases h
  intro c hc
  exact List.mem_append_right start
    ((suffix_of_afterColumnAs? hafter).subset (List.takeWhile_subset isWord hc))

theorem forall_toNat_lt {text : List Char} (h : (text.all fun c => c.toNat < 128) = true) :
    ∀ c ∈ text, c.toNat < 128 :=
  fun c hc => of_decide_eq_true (List.all_eq_true.mp h c hc)

-- So it is in the first 128 code points.
theorem IsWordApart.of_ascii (hquery : ∀ c ∈ query, c.toNat < 128) (hcolumn : IsRun column)
    (hascii : ∀ c ∈ column, c.toNat < 128)
    (hapart : ∀ keyword ∈ keywords, lower column ≠ keyword.toList) :
    IsWordApart column query := by
  have halias {given : List Char} (hmem : given ∈ aliases column query) :
      ∀ c ∈ given, c.toNat < 128 := fun c hc => hquery c (subset_of_mem_aliases hmem hc)
  have hspelled {name word : List Char} (hname : IsRun name) (hcodes : ∀ c ∈ name, c.toNat < 128)
      (hword : Spells word name) : IsRun word :=
    ⟨hword.ne_nil hname.1, hword.forall_isWord_of_ascii
      (List.all_eq_true.mpr fun c hc => by simp [hcodes c hc, hname.2 c hc])⟩
  have hkeywords : ∀ keyword ∈ keywords, lower keyword.toList = keyword.toList ∧
      (keyword.toList.all fun c => c.toNat < 128) = true := by decide
  exact {
    words := fun word hword => hspelled hcolumn hascii hword
    apart := fun keyword hmem hspells =>
      have ⟨hlower, hcodes⟩ := hkeywords keyword hmem
      hapart keyword hmem
        ((lower_eq_of_spells hascii (forall_toNat_lt hcodes) hspells).trans hlower)
    aliasWords := fun given hmem word hword =>
      hspelled (isWord_of_mem_aliases hmem) (halias hmem) hword
    aliasApart := fun given hmem hother hspells =>
      hother (lower_eq_of_spells hascii (halias hmem) hspells).symm }

namespace IsWordApart

theorem isRun (h : IsWordApart column query) : IsRun column := h.words column rfl

theorem not_spells_verb (h : IsWordApart column query) (hverb : verb ∈ verbs) :
    ¬ Spells column (lower verb.toList) := by
  have hkeywords : ∀ verb ∈ verbs, ∃ keyword ∈ keywords, lower verb.toList = keyword.toList := by
    decide
  obtain ⟨keyword, hkeyword, hlower⟩ := hkeywords verb hverb
  exact hlower ▸ h.apart keyword hkeyword

variable {verb' : String} {given' : List Char}

-- A pass that drops an alias leaves the column alone behind, which is none of the words of a use.
theorem makesNone_own (h : IsWordApart column query) (hverb' : verb' ∈ verbs)
    (hmem' : given' ∈ aliases column query) (hother' : lower given' ≠ lower column)
    (hown : IsOwn column given taken) :
    MakesNone (Spells · (lower verb'.toList)) (laterWords given') taken column := by
  have hrun := h.isRun
  have hfirst {kind : List Char → Prop} {kinds : List (List Char → Prop)} {out : List Char}
      (hout : out.head?.any isWord = false) (hphrase : Phrase (kind :: kinds) (column ++ out)) :
      kind column := by
    rw [← takeWhile_run hrun.2 hout]
    exact hphrase.first
  refine ⟨?_, ?_, ?_, ?_⟩
  · obtain ⟨name, gap, link, space, other, rfl, hname, hgap, -⟩ := hown
    have hnameRun := h.words name hname
    refine ⟨hnameRun.head, any_head?_of_forall hrun.1 hrun.2, hrun.last, ?_, ?_⟩
    · rw [takeWhile_run hnameRun.2 hgap.head_append]
      exact hnameRun.1
    · rw [List.takeWhile_eq_self_iff.mpr hrun.2]
      exact hrun.1
  · exact (Lacks.of_word hrun.2 (h.not_spells_verb hverb')).tail
  · exact fun out hout hphrase => h.not_spells_verb hverb' (hfirst hout hphrase)
  · intro part hpart rest out hrest hout hphrase
    rcases List.suffix_cons_iff.mp hpart with rfl | hpart
    · exact absurd (hfirst hout hphrase) (h.apart "by" (by decide))
    · rcases List.suffix_cons_iff.mp hpart with rfl | hpart
      · exact absurd (hfirst hout hphrase) (h.aliasApart given' hmem' hother')
      · obtain rfl := List.suffix_nil.mp hpart
        cases hphrase

-- So does a pass that puts it in place of an alias. What it puts in before the column could only
-- go on with a use that the alias went on with.
theorem makesNone_use (h : IsWordApart column query) (hverb : verb ∈ verbs)
    (hmem : given ∈ aliases column query) (hverb' : verb' ∈ verbs)
    (hmem' : given' ∈ aliases column query) (hother' : lower given' ≠ lower column)
    (huse : IsUse verb given taken) :
    MakesNone (Spells · (lower verb'.toList)) (laterWords given') taken (useOf verb column) := by
  have hrun := h.isRun
  obtain ⟨start, gap, link, space, other, rfl, hspells, hstart, hgap, -, -, -, -, -⟩ :=
    huse.exists_words (h.aliasWords given hmem) hverb
  obtain ⟨verbLink, hverbLink, hlower, hverbSpells, hby, -⟩ := exists_verbLink hverb
  obtain ⟨verbLink', hverbLink', hlower', -, hby', -⟩ := exists_verbLink hverb'
  have hverbRun := isRun_link hverbLink hverbSpells
  have hfirst {kind : List Char → Prop} {kinds : List (List Char → Prop)} {out : List Char}
      (hphrase : Phrase (kind :: kinds) (useOf verb column ++ out)) : kind verb.toList := by
    have hword := hphrase.first
    rw [useOf_eq] at hword
    simp only [List.append_assoc] at hword
    rwa [takeWhile_run hverbRun.2 isGap_space.head_append] at hword
  refine ⟨?_, ?_, ?_, ?_⟩
  · refine ⟨hstart.head, ?_, ?_, ?_, ?_⟩
    · rw [useOf_eq]
      exact hverbRun.head
    · rw [useOf, List.getLast?_append_of_ne_nil _ hrun.1]
      exact hrun.last
    · rw [takeWhile_run hstart.2 hgap.head_append]
      exact hstart.1
    · rw [useOf_eq, takeWhile_run hverbRun.2 isGap_space.head_append]
      exact hverbRun.1
  · rw [useOf_eq]
    refine .tail_of_run hverbRun (lacks_after ?_ isGap_space isRun_by ?_ isGap_space
      (.of_word hrun.2 (h.not_spells_verb hverb'))) isGap_space.head_append
    · rw [hlower']
      exact (isRun_link hverbLink' rfl).1
    · intro hspells
      rw [hlower'] at hspells
      exact hby' (link_inj hverbLink' (by decide) hspells (by decide))
  · intro out hout hphrase
    rw [← begins_use_eq hverb' (h.aliasWords given' hmem')] at hphrase
    obtain ⟨_, rest, heq, huse', hrest⟩ := hphrase
    obtain ⟨start', gap', link', space', other', rfl, -, hstart', hgap', -, hlink', hspace', hname',
      hother''⟩ := huse'.exists_words (h.aliasWords given' hmem') hverb'
    rw [useOf_eq] at heq
    simp only [List.append_assoc] at heq
    have hafter := phrase_inj hverbRun isGap_space isRun_by isGap_space hrun.head hstart' hgap'
      hlink' hspace' hother''.head heq
    obtain ⟨rfl, -⟩ := run_inj hafter hrun.2 hout hother''.2 hrest
    exact h.aliasApart given' hmem' hother' hname'
  · intro part hpart rest out hrest hout hphrase
    rcases List.suffix_cons_iff.mp hpart with rfl | hpart
    · have hlink : Spells verb.toList "by".toList := @hfirst (Spells · "by".toList) _ _ hphrase
      exact absurd (link_inj hverbLink (by decide) hverbSpells hlink) hby
    · rcases List.suffix_cons_iff.mp hpart with rfl | hpart
      · have hname : Spells verb.toList given' := @hfirst (Spells · given') _ _ hphrase
        have hname : Spells start given' := hspells.trans ((hlower ▸ hverbSpells.symm).trans hname)
        rw [List.append_assoc, List.append_assoc]
        exact .last hstart hname hgap.head_append
      · obtain rfl := List.suffix_nil.mp hpart
        cases hphrase

theorem standAlone_use (h : IsWordApart column query) (hverb : verb ∈ verbs)
    (hmem : given ∈ aliases column query) : StandAlone (recogniseUse verb column given)
      fun taken value => IsUse verb given taken ∧ value = useOf verb column :=
  TimeAlias.standAlone_use hverb (isWord_of_mem_aliases hmem).1 fun word hword =>
    (h.aliasWords given hmem word hword).2

-- What groups or orders by an alias is brought in by no pass.
theorem escapes_of_pass (h : IsWordApart column query) (hmem : given ∈ aliases column query)
    (hverb' : verb' ∈ verbs) (hmem' : given' ∈ aliases column query)
    (hother' : lower given' ≠ lower column) {recognise : Recogniser}
    (hpass : recognise ∈ resolvers column given)
    (hused : IsUsedIn verb' given' (replaceAll recognise text)) :
    Escapes recognise (Begins (IsUse verb' given') fun rest => rest.head?.any isWord = false) none
      text := by
  rw [IsUsedIn, begins_use_eq hverb' (h.aliasWords given' hmem')] at hused
  rw [begins_use_eq hverb' (h.aliasWords given' hmem')]
  unfold resolvers at hpass
  split at hpass
  · obtain rfl := List.mem_singleton.mp hpass
    refine Phrase.escapes_of_replaceFrom (standAlone_own (h.aliasWords given hmem)) ?_ none text
      hused
    rintro taken value ⟨hown, rfl⟩
    exact h.makesNone_own hverb' hmem' hother' hown
  · obtain ⟨verb, hverb, rfl⟩ := List.mem_map.mp hpass
    refine Phrase.escapes_of_replaceFrom (h.standAlone_use hverb hmem) ?_ none text hused
    rintro taken value ⟨huse, rfl⟩
    exact h.makesNone_use hverb hmem hverb' hmem' hother' huse

-- The pass over the uses of an alias leaves none of them.
theorem not_isUsedIn_pass (h : IsWordApart column query) (hverb : verb ∈ verbs)
    (hmem : given ∈ aliases column query) (hother : lower given ≠ lower column) :
    ¬ IsUsedIn verb given (replaceAll (recogniseUse verb column given) text) := by
  intro hused
  have hpass : recogniseUse verb column given ∈ resolvers column given := by
    rw [resolvers, if_neg hother]
    exact List.mem_map_of_mem hverb
  obtain ⟨start, _, rfl, hbefore, ⟨taken, rest, rfl, huse, hrest⟩, hnone⟩ :=
    h.escapes_of_pass hmem hverb hmem hother hpass hused
  rw [huse.recogniseUse_append (h.aliasWords given hmem) hverb hbefore hrest] at hnone
  cases hnone

end IsWordApart

-- Nothing groups or orders by an alias once the aliases of a column are resolved, however many
-- there are: not even by one that is called as the words around it are.
theorem not_isUsedIn_resolveAll (hquery : ∀ c ∈ query, c.toNat < 128) (hcolumn : IsRun column)
    (hascii : ∀ c ∈ column, c.toNat < 128)
    (hapart : ∀ keyword ∈ keywords, lower column ≠ keyword.toList) :
    ∀ given ∈ aliases column query, lower given ≠ lower column → ∀ verb ∈ verbs,
      ¬ IsUsedIn verb given (resolveAll query column) := by
  intro given hmem hother verb hverb
  have h := IsWordApart.of_ascii hquery hcolumn hascii hapart
  rw [resolveAll_eq, IsUsedIn]
  apply not_stands_replaceEach
  · intro recognise hpass text hused
    obtain ⟨given', hmem', hpass⟩ := List.mem_flatMap.mp hpass
    exact (h.escapes_of_pass hmem' hverb hmem hother hpass hused).stands
  · refine ⟨recogniseUse verb column given, ?_, fun text => h.not_isUsedIn_pass hverb hmem hother⟩
    refine List.mem_flatMap_of_mem hmem ?_
    rw [resolvers, if_neg hother]
    exact List.mem_map_of_mem hverb

-- A query whose aliases are a word around aliases, a plain name, and the column's own name.
def keywordAliases : List Char :=
  "SELECT ts AS Group, ts AS t, ts AS TS FROM m GROUP BY group ORDER  by T".toList

theorem aliases_keywordAliases : aliases "ts".toList keywordAliases =
    ["Group".toList, "t".toList, "TS".toList] := by
  decide +kernel

-- It groups by one of them and orders by another one, and once they are resolved by neither.
theorem not_isUsedIn_keywordAliases :
    (IsUsedIn "GROUP" "Group".toList keywordAliases ∧ IsUsedIn "ORDER" "t".toList keywordAliases) ∧
      ¬ IsUsedIn "GROUP" "Group".toList (resolveAll keywordAliases "ts".toList) ∧
      ¬ IsUsedIn "ORDER" "t".toList (resolveAll keywordAliases "ts".toList) := by
  have hcolumn : IsRun "ts".toList := ⟨by decide, List.all_eq_true.mp (by decide)⟩
  have hquery : ∀ c ∈ keywordAliases, c.toNat < 128 := forall_toNat_lt (by decide)
  have hascii : ∀ c ∈ "ts".toList, c.toNat < 128 := forall_toNat_lt (by decide)
  refine ⟨⟨?_, ?_⟩, ?_, ?_⟩
  · exact ⟨"SELECT ts AS Group, ts AS t, ts AS TS FROM m ".toList,
      "GROUP BY group ORDER  by T".toList, rfl, by decide, "GROUP BY group".toList,
      " ORDER  by T".toList, rfl, ⟨"GROUP".toList, [' '], "BY".toList, [' '], "group".toList, rfl,
        by decide, isGap_space, by decide, isGap_space, by decide⟩, by decide⟩
  · exact ⟨"SELECT ts AS Group, ts AS t, ts AS TS FROM m GROUP BY group ".toList,
      "ORDER  by T".toList, rfl, by decide, "ORDER  by T".toList, [], rfl,
      ⟨"ORDER".toList, [' ', ' '], "by".toList, [' '], "T".toList, rfl, by decide,
        ⟨by decide, List.all_eq_true.mp (by decide)⟩, by decide, isGap_space, by decide⟩,
      by decide⟩
  · exact not_isUsedIn_resolveAll hquery hcolumn hascii (by decide) "Group".toList
      (by rw [aliases_keywordAliases]; decide) (by decide) "GROUP" (by decide)
  · exact not_isUsedIn_resolveAll hquery hcolumn hascii (by decide) "t".toList
      (by rw [aliases_keywordAliases]; decide) (by decide) "ORDER" (by decide)

end TimePanel.TimeAlias
