import TimePanel.Proofs.Query.AliasUse

/-! What resolving the aliases of a column changes, pass by pass. No pass hides from another one what
that should not change, so the query tells whether there is anything of the sort. -/

namespace TimePanel.TimeAlias

open Text

variable {column query given taken text : List Char} {verb : String} {before : Option Char}

namespace IsOrdinary

section Uses

variable {verb' : String} {given' : List Char}

theorem isPhrase_use_use (h : IsOrdinary column query) (hverb : verb ∈ verbs)
    (hverb' : verb' ∈ verbs) (hmem' : given' ∈ aliases column query) :
    IsPhrase (Spells · (lower verb'.toList)) (Spells · (lower verb.toList)) (IsUse verb' given')
      fun rest => rest.head?.any isWord = false ∧
        (rest.head? = some '.' ∨ ¬ IsGiven column query given') := by
  obtain ⟨link, hlink, hlower, -, hby, -⟩ := exists_verbLink hverb
  rw [hlower]
  exact h.isPhrase_use hverb' hmem' (isRun_link hlink rfl).1
    (fun hspells => hby (link_inj hlink (by decide) rfl hspells.symm))
    (h.aliasWords given' hmem' link hlink)

theorem respects_use_use (h : IsOrdinary column query) (hverb : verb ∈ verbs)
    (hmem : given ∈ aliases column query) (hverb' : verb' ∈ verbs)
    (hmem' : given' ∈ aliases column query) (hother' : lower given' ≠ lower column)
    (huse : IsUse verb given taken) :
    Respects (Spells · (lower verb'.toList)) (Spells · (lower verb.toList))
      (UsedAmiss column query verb' given') taken (useOf verb column) := by
  obtain ⟨link, hlink, hlower, -, hby, -⟩ := exists_verbLink hverb'
  rw [hlower]
  exact h.respects_use hverb hmem hlink hby
    (fun rest hrest => h.not_usedAmiss_useOf hverb hverb' hmem' hother' hrest) huse

-- Where an alias is put out that is used amiss, the change is none that should be made.
theorem not_isProper_use (h : IsOrdinary column query) (hverb' : verb' ∈ verbs)
    (hmem' : given' ∈ aliases column query) {place : Place}
    (hvalue : place.value = useOf verb column) (hrest : place.rest.head?.any isWord = false)
    (hamiss : UsedAmiss column query verb' given' (place.taken ++ place.rest)) :
    ¬ IsProper column query place := by
  obtain ⟨part, more, heq, huse', hmore, hamiss⟩ := hamiss
  intro hproper
  cases hproper with
  | use verb'' given'' hverb'' hmem'' hgiven'' huse'' hvalue'' hwhole =>
      obtain ⟨hspells, hsame⟩ := h.use_inj hverb'' hmem'' huse'' hrest hverb' hmem' huse' hmore heq
      rcases hamiss with hdot | hnot
      · rw [hsame, hdot] at hwhole
        exact absurd hwhole (by decide)
      · exact hnot (hgiven''.respell hspells)
  | own given'' hsame hown hvalue'' => exact useOf_ne verb column (hvalue ▸ hvalue'')

theorem keeps_use_use (h : IsOrdinary column query) (hverb : verb ∈ verbs)
    (hmem : given ∈ aliases column query) (hverb' : verb' ∈ verbs)
    (hmem' : given' ∈ aliases column query) (hother' : lower given' ≠ lower column) :
    Keeps (IsProper column query) (recogniseUse verb column given)
      (UsedAmiss column query verb' given') := by
  refine (h.standAlone_use hverb hmem).keeps ?_ (h.isPhrase_use_use hverb hverb' hmem') ?_
  · rintro taken value ⟨huse, rfl⟩
    exact h.respects_use_use hverb hmem hverb' hmem' hother' huse
  · rintro place ⟨-, hvalue⟩ hrest hamiss
    exact h.not_isProper_use hverb' hmem' hvalue hrest hamiss

end Uses

-- A use out of place is what a pass over uses changes out of place.
theorem stands_usedAmiss_iff (h : IsOrdinary column query) (hverb : verb ∈ verbs)
    (hmem : given ∈ aliases column query) (hother : lower given ≠ lower column) :
    Stands (UsedAmiss column query verb given) none text ↔
      ∃ place ∈ places (recogniseUse verb column given) text, ¬ IsProper column query place := by
  have hr := h.standAlone_use hverb hmem
  constructor
  · refine hr.exists_place ?_ (h.isPhrase_use_use hverb hverb hmem) ?_ ?_
    · rintro taken value ⟨huse, rfl⟩
      exact h.respects_use_use hverb hmem hverb hmem hother huse
    · rintro place ⟨-, hvalue⟩ hrest hamiss
      exact h.not_isProper_use hverb hmem hvalue hrest hamiss
    · rintro before text hbefore ⟨taken, rest, rfl, huse, hrest, -⟩
      simp [h.recogniseUse_append hverb hmem huse hbefore hrest]
  · rintro ⟨place, hplace, hbad⟩
    obtain ⟨rfl, hhit, huse, hvalue⟩ := of_mem_places hr.turns hplace
    obtain ⟨hbefore, -, hrest⟩ := hr.ends hhit
    refine ⟨place.start, _, rfl, by rwa [Option.or_none], place.taken, place.rest, rfl, huse,
      hrest, ?_⟩
    by_contra hgood
    obtain ⟨hdot, hgiven⟩ := not_or.mp hgood
    refine hbad (.use verb given hverb hmem (not_not.mp hgiven) huse hvalue ?_)
    cases hhead : place.rest.head? with
    | none => rfl
    | some c =>
        rw [hhead] at hrest hdot
        have hc : c ≠ '.' := fun hc => hdot (congrArg some hc)
        simpa [TimeColumn.isNamePart, hc] using hrest

theorem keeps_own_use (h : IsOrdinary column query) {given' : List Char}
    (hmem : given ∈ aliases column query) (hverb : verb ∈ verbs)
    (hmem' : given' ∈ aliases column query) (hother' : lower given' ≠ lower column) :
    Keeps (IsProper column query) (recogniseOwn column given)
      (UsedAmiss column query verb given') := by
  obtain ⟨link, hlink, hlower, -, -, has, -⟩ := exists_verbLink hverb
  have hphrase := h.isPhrase_use hverb hmem' h.first_ne_nil
    (fun hspells => h.not_spells_first (by decide) hspells.symm)
    (h.aliasApart given' hmem' hother')
  rw [hlower] at hphrase
  have hapart : ∀ word, Spells word (column.takeWhile isWord) → ¬ Spells word link.toList :=
    fun word hword hspells => h.not_spells_first hlink (hword.symm.trans hspells)
  refine (h.standAlone_own hmem).keeps ?_ hphrase ?_
  · rintro taken value ⟨hown, rfl⟩
    exact h.respects_own hmem hlink has
      (fun rest hrest => (hphrase.not_begins (h.opens_own hown) hapart hrest).2) hown
  · rintro place ⟨hown, -⟩ hrest hamiss
    exact absurd hamiss (hphrase.not_begins (h.opens_own hown) hapart hrest).1

theorem keeps_use_cast (h : IsOrdinary column query) {given' : List Char} (hverb : verb ∈ verbs)
    (hmem : given ∈ aliases column query) (hmem' : given' ∈ aliases column query) :
    Keeps (IsProper column query) (recogniseUse verb column given) (IsCast column given') := by
  obtain ⟨link, hlink, hlower, -, -, has, hcast⟩ := exists_verbLink hverb
  have hphrase := h.isPhrase_cast hmem' hlink has
  rw [← hlower] at hphrase
  have hapart : ∀ word, Spells word (lower verb.toList) → ¬ Spells word "cast".toList :=
    fun word hword hspells => hcast (link_inj hlink (by decide) (hlower ▸ hword) hspells)
  refine (h.standAlone_use hverb hmem).keeps ?_ hphrase ?_
  · rintro taken value ⟨huse, rfl⟩
    exact h.respects_use hverb hmem (by decide) (by decide)
      (fun rest hrest => (hphrase.not_begins (h.opens_use hverb hmem huse) hapart hrest).2) huse
  · rintro place ⟨huse, -⟩ hrest hcast
    exact absurd hcast (hphrase.not_begins (h.opens_use hverb hmem huse) hapart hrest).1

-- A cast begins like no column, and nothing of a column is taken for one.
theorem lacks_opening (h : IsOrdinary column query) {opening : List Char}
    (hopening : IsCastOpening opening) :
    Lacks (Spells · (column.takeWhile isWord)) none opening := by
  obtain ⟨cast, marks, rfl, hcast, hrun, hmarks⟩ := hopening.exists_parts
  have hword : ¬ Spells cast (column.takeWhile isWord) := fun hspells =>
    h.not_spells_first (by decide) (hspells.symm.trans hcast)
  have hnil : ¬ Spells [] (column.takeWhile isWord) := fun hspells =>
    h.first_ne_nil (List.map_eq_nil_iff.mp hspells.symm)
  exact (Lacks.of_word hrun.2 hword).append (.of_gap hmarks.words hnil) fun _ => by
    simpa using hmarks.head_append []

theorem opens_standAlone (h : IsOrdinary column query) (hmem : given ∈ aliases column query) :
    StandAlone (recogniseOwn column given) (Opens (Spells · (column.takeWhile isWord))) :=
  (h.standAlone_own hmem).mono fun taken value => by
    rintro ⟨hown, rfl⟩
    exact h.opens_own hown

-- The type of a cast is dropped as an alias is.
theorem exists_place_cast (h : IsOrdinary column query) (hmem : given ∈ aliases column query) :
    Stands (IsCast column given) none text →
      ∃ place ∈ places (recogniseOwn column given) text, ¬ IsProper column query place := by
  have hr := h.standAlone_own hmem
  have hcast : "cast" ∈ linkWords := by decide
  refine scan_induction_from hr.turns (motive := fun start text =>
    Stands (IsCast column given) start.getLast? text →
      ∃ place ∈ placesFrom (recogniseOwn column given) start 0 text,
        ¬ IsProper column query place) ?_ ?_ ?_ [] text
  · rintro start ⟨before, tail, heq, -, _, rest, rfl, ⟨opening, taken, rfl, hopening, -⟩, -⟩
    simp only [List.nil_eq, List.append_eq_nil_iff] at heq
    exact absurd heq.2.1.1 hopening.ne_nil
  · intro start c rest hnone ih hstands
    rcases Stands.cons_iff.mp hstands with ⟨hbefore, hbegins⟩ | hlater
    · obtain ⟨_, after, heq, ⟨opening, taken, rfl, hopening, hown⟩, hafter⟩ := hbegins
      rw [heq, List.append_assoc, (h.opens_standAlone hmem).placesFrom_append
        (h.lacks_opening hopening).mono (hopening.isParted _), placesFrom_hit hown.ne_nil
        (h.recogniseOwn_append hmem hown (hopening.isQualified_last start) hafter)]
      refine ⟨_, List.mem_cons_self, fun hproper => ?_⟩
      cases hproper with
      | use verb given' hverb hmem' hgiven huse hvalue hwhole =>
          exact useOf_ne verb column hvalue.symm
      | own given' hsame hown' hvalue hcast => exact hcast ⟨start, opening, rfl, hbefore, hopening⟩
    · rw [placesFrom_keep hnone]
      exact ih (by simpa using hlater)
  · rintro start taken rest value hne ⟨hown, -⟩ hhit ih hstands
    obtain ⟨-, -, hrest⟩ := hr.ends hhit
    have hlacks := h.lacks_own hmem hown hcast (by decide)
    rw [placesFrom_hit hne hhit]
    have hlater := (Stands.append_iff (fun _ => IsCast.first) hlacks.mono fun _ => hrest).mp hstands
    rw [← List.getLast?_append] at hlater
    obtain ⟨place, hplace, hbad⟩ := ih hlater
    exact ⟨place, List.mem_cons_of_mem _ hplace, hbad⟩

theorem stands_isCast_iff (h : IsOrdinary column query) (hmem : given ∈ aliases column query)
    (hsame : lower given = lower column) : Stands (IsCast column given) none text ↔
      ∃ place ∈ places (recogniseOwn column given) text, ¬ IsProper column query place := by
  have hr := h.standAlone_own hmem
  refine ⟨h.exists_place_cast hmem, ?_⟩
  rintro ⟨place, hplace, hbad⟩
  obtain ⟨rfl, hhit, hown, hvalue⟩ := of_mem_places hr.turns hplace
  obtain ⟨-, -, hrest⟩ := hr.ends hhit
  have hcast : EndsInCast place.start := by
    by_contra hnone
    exact hbad (.own given hsame hown hvalue hnone)
  obtain ⟨before, opening, hstart, hbefore, hopening⟩ := hcast
  exact ⟨before, opening ++ place.taken ++ place.rest, by simp [hstart],
    by rwa [Option.or_none], _, _, rfl, ⟨opening, place.taken, rfl, hopening, hown⟩, hrest⟩

-- A column that is an alias as well is a single word.
theorem isRun_own (h : IsOrdinary column query) (hmem : given ∈ aliases column query)
    (hsame : lower given = lower column) {name : List Char} (hname : Spells name column) :
    IsRun name :=
  h.isRun_alias hmem (hname.trans (h.spells_own hmem hsame).symm)

-- Where the outcome begins with a column and its own name as its alias, so does the text.
theorem own_of_replaceFrom (h : IsOrdinary column query) (hmem : given ∈ aliases column query)
    (hsame : lower given = lower column) {out : List Char} (hown : IsOwn column given taken)
    (hout : out.head?.any isWord = false)
    (heq : replaceFrom (recogniseOwn column given) before 0 text = taken ++ out) :
    Begins (IsOwn column given) (fun rest => rest.head?.any isWord = false) text := by
  have hopens := h.opens_standAlone hmem
  cases hfound : recogniseOwn column given before text with
  | some hit =>
      obtain ⟨word, rest, rfl, -, -, -, -, hrest, hword, -⟩ := h.standAlone_own hmem _ _ _ hfound
      exact ⟨word, rest, rfl, hword, hrest⟩
  | none =>
      -- The first word stays, with all that stands between it and the second one.
      obtain ⟨name, gap, link, space, other, rfl, hname, hgap, hlink, hspace, hother⟩ := hown
      have hnone : Lacks (Spells · (column.takeWhile isWord)) none [] := trivial
      have hlacks := Lacks.tail_of_run (h.isRun_own hmem hsame hname)
        (lacks_after h.first_ne_nil hgap (isRun_link (by decide) hlink)
          (fun hfirst => h.not_spells_first (by decide) (hfirst.symm.trans hlink)) hspace hnone)
        hgap.head_append
      have hend : IsParted space (other ++ out) :=
        .of_gap fun c hc => isWord_of_isBlank (hspace.2 c hc)
      have hparted := hend.append hspace.1 (name ++ (gap ++ link))
      simp only [List.append_assoc, List.append_nil] at heq hlacks hparted
      obtain ⟨after, rfl, hafter⟩ := hopens.exists_of_kept hfound
        (List.append_ne_nil_of_left_ne_nil (hname.ne_nil h.column_ne_nil) _) hlacks hparted
        (heq.trans (by simp))
      -- The second one is spelled as in the text, up to what is put in for the column.
      have hfirst : column.takeWhile isWord = column :=
        List.takeWhile_eq_self_iff.mpr (h.isRun_own hmem hsame rfl).2
      have hspells := h.spells_own hmem hsame
      have hsecond : Spells (after.takeWhile isWord) (column.takeWhile isWord) := by
        rw [← hopens.first_replaceFrom_iff _ after, hafter,
          takeWhile_run (h.isRun_alias hmem hother).2 hout, hfirst]
        exact hother.trans hspells
      rw [hfirst] at hsecond
      exact ⟨name ++ (gap ++ (link ++ (space ++ after.takeWhile isWord))), after.dropWhile isWord,
        by simp, ⟨name, gap, link, space, _, rfl, hname, hgap, hlink, hspace,
          hsecond.trans hspells.symm⟩, any_head?_dropWhile _ _⟩

theorem stands_cast_of_replaceFrom (h : IsOrdinary column query)
    (hmem : given ∈ aliases column query) (hsame : lower given = lower column)
    (before : Option Char) (text : List Char) :
    Stands (IsCast column given) before (replaceFrom (recogniseOwn column given) before 0 text) →
      Stands (IsCast column given) before text := by
  have hr := h.standAlone_own hmem
  have hopens := h.opens_standAlone hmem
  have hcast : "cast" ∈ linkWords := by decide
  refine scan_induction hr.turns (motive := fun before text =>
    Stands (IsCast column given) before (replaceFrom (recogniseOwn column given) before 0 text) →
      Stands (IsCast column given) before text) ?_ ?_ ?_ before text
  · intro before
    exact id
  · intro before c rest hnone ih hstands
    have hkeep := replaceFrom_keep hnone
    rw [hkeep, Stands.cons_iff, ← hkeep] at hstands
    rw [Stands.cons_iff]
    rcases hstands with ⟨hbefore, _, out, heq, ⟨opening, taken, rfl, hopening, hown⟩, hout⟩ | hlater
    · rw [List.append_assoc] at heq
      obtain ⟨after, htext, hafter⟩ := hopens.exists_of_kept hnone hopening.ne_nil
        (h.lacks_opening hopening).tail (hopening.isParted _) heq
      obtain ⟨word, more, rfl, hword, hmore⟩ := h.own_of_replaceFrom hmem hsame hown hout hafter
      exact .inl ⟨hbefore, opening ++ word, more, by rw [htext, List.append_assoc],
        ⟨_, _, rfl, hopening, hword⟩, hmore⟩
    · exact .inr (ih hlater)
  · rintro before taken rest value hne ⟨hown, rfl⟩ hhit ih hstands
    obtain ⟨-, hlast, hrest⟩ := hr.ends hhit
    have hout := (hopens.head?_replaceFrom (taken.getLast?.or before) rest).1.trans hrest
    rw [replaceFrom_hit hne hhit, Stands.append_iff (fun _ => IsCast.first) (h.words _ hcast).mono
      fun _ => hout] at hstands
    refine (ih ((Stands.congr ?_).mp hstands)).of_rest
    exact (any_last_or h.last before).trans (any_last_or hlast before).symm

theorem keeps_own_cast (h : IsOrdinary column query) {given' : List Char}
    (hmem : given ∈ aliases column query) (hsame : lower given = lower column)
    (hmem' : given' ∈ aliases column query) (hsame' : lower given' = lower column) :
    Keeps (IsProper column query) (recogniseOwn column given) (IsCast column given') := by
  have hspells : Spells given' given :=
    (h.spells_own hmem' hsame').trans (h.spells_own hmem hsame).symm
  have hcast : IsCast column given' = IsCast column given := by
    funext text
    exact propext ⟨fun hcast => hcast.respell hspells, fun hcast => hcast.respell hspells.symm⟩
  intro text
  rw [hcast]
  exact ⟨h.stands_cast_of_replaceFrom hmem hsame none text,
    fun hstands => .inl (h.exists_place_cast hmem hstands)⟩

end IsOrdinary

-- The passes that resolve an alias, each with what makes it change a query where it should not.
def guardedResolvers (column query given : List Char) : List (Recogniser × (List Char → Prop)) :=
  if lower given = lower column then [(recogniseOwn column given, IsCast column given)]
  else verbs.map fun verb =>
    (recogniseUse verb column given, UsedAmiss column query verb given)

theorem map_guardedResolvers (column query given : List Char) :
    (guardedResolvers column query given).map Prod.fst = resolvers column given := by
  unfold guardedResolvers resolvers
  split
  · rfl
  · rw [List.map_map]
    rfl

-- The passes over a whole query.
inductive IsPass (column query : List Char) : Recogniser × (List Char → Prop) → Prop
  | own (given : List Char) (hmem : given ∈ aliases column query)
      (hsame : lower given = lower column) :
      IsPass column query (recogniseOwn column given, IsCast column given)
  | use (verb : String) (given : List Char) (hverb : verb ∈ verbs)
      (hmem : given ∈ aliases column query) (hother : lower given ≠ lower column) :
      IsPass column query (recogniseUse verb column given, UsedAmiss column query verb given)

theorem isPass_of_mem {pass : Recogniser × (List Char → Prop)}
    (h : pass ∈ (aliases column query).flatMap (guardedResolvers column query)) :
    IsPass column query pass := by
  obtain ⟨given, hmem, hpass⟩ := List.mem_flatMap.mp h
  unfold guardedResolvers at hpass
  split at hpass
  · next hsame =>
    obtain rfl := List.mem_singleton.mp hpass
    exact .own given hmem hsame
  · next hother =>
    obtain ⟨verb, hverb, rfl⟩ := List.mem_map.mp hpass
    exact .use verb given hverb hmem hother

theorem IsPass.stands_iff (h : IsOrdinary column query) {pass : Recogniser × (List Char → Prop)}
    (hpass : IsPass column query pass) (text : List Char) : Stands pass.2 none text ↔
      ∃ place ∈ places pass.1 text, ¬ IsProper column query place := by
  cases hpass with
  | own given hmem hsame => exact h.stands_isCast_iff hmem hsame
  | use verb given hverb hmem hother => exact h.stands_usedAmiss_iff hverb hmem hother

-- What a pass puts in or drops changes for no other pass what it should not have changed.
theorem IsPass.keeps (h : IsOrdinary column query) {pass other : Recogniser × (List Char → Prop)}
    (hpass : IsPass column query pass) (hnext : IsPass column query other) :
    Keeps (IsProper column query) pass.1 other.2 := by
  cases hpass with
  | own given hmem hsame =>
      cases hnext with
      | own given' hmem' hsame' => exact h.keeps_own_cast hmem hsame hmem' hsame'
      | use verb' given' hverb' hmem' hother' => exact h.keeps_own_use hmem hverb' hmem' hother'
  | use verb given hverb hmem hother =>
      cases hnext with
      | own given' hmem' hsame' => exact h.keeps_use_cast hverb hmem hmem'
      | use verb' given' hverb' hmem' hother' =>
          exact h.keeps_use_use hverb hmem hverb' hmem' hother'

theorem isClear_iff : IsClear column query ↔
    ∀ pass ∈ (aliases column query).flatMap (guardedResolvers column query),
      ¬ Stands pass.2 none query := by
  rw [List.forall_mem_flatMap]
  refine forall_congr' fun given => forall_congr' fun _ => ?_
  unfold guardedResolvers
  split
  · rw [List.forall_mem_singleton]
  · rw [List.forall_mem_map]

-- Resolving aliases changes nothing but uses of aliases, whole names that the query gives to the
-- column, and aliases that are its own name, exactly if the query is clear.
theorem onlyAt_isProper_iff (h : IsOrdinary column query) :
    resolveAll query column = replaceEach ((aliases column query).flatMap (resolvers column)) query ∧
      (OnlyAt (IsProper column query) ((aliases column query).flatMap (resolvers column)) query ↔
        IsClear column query) := by
  refine ⟨resolveAll_eq, ?_⟩
  have hpasses : (aliases column query).flatMap (resolvers column) =
      ((aliases column query).flatMap (guardedResolvers column query)).map Prod.fst := by
    rw [List.map_flatMap]
    simp only [map_guardedResolvers]
  rw [hpasses, isClear_iff]
  exact onlyAt_iff (fun pass hmem => (isPass_of_mem hmem).stands_iff h)
    (fun pass hmem other hother => (isPass_of_mem hmem).keeps h (isPass_of_mem hother)) query

-- A table with the name of an alias.
def namesake : List Char := "SELECT ts AS t, t.host FROM m t GROUP BY t.host".toList

theorem aliases_namesake : aliases "ts".toList namesake = ["t".toList] := by decide +kernel

-- The table is taken for the alias.
theorem onlyAt_isProper_namesake : IsOrdinary "ts".toList namesake ∧
    ¬ OnlyAt (IsProper "ts".toList namesake)
      ((aliases "ts".toList namesake).flatMap (resolvers "ts".toList)) namesake := by
  have hordinary : IsOrdinary "ts".toList namesake :=
    .of_ascii (by decide) (by decide) (by decide) (by decide) (by rw [aliases_namesake]; decide)
      (by rw [aliases_namesake]; decide) (by rw [aliases_namesake]; decide)
  refine ⟨hordinary, fun honly => ?_⟩
  have hmem : "t".toList ∈ aliases "ts".toList namesake := by
    rw [aliases_namesake]
    exact List.mem_singleton_self _
  have hclear := (onlyAt_isProper_iff hordinary).2.mp honly "t".toList hmem
  rw [if_neg (by decide)] at hclear
  have huse : IsUse "GROUP" "t".toList "GROUP BY t".toList :=
    ⟨"GROUP".toList, [' '], "BY".toList, [' '], "t".toList, rfl, by decide, isGap_space,
      by decide, isGap_space, rfl⟩
  exact hclear "GROUP" (by decide) ⟨"SELECT ts AS t, t.host FROM m t ".toList,
    "GROUP BY t.host".toList, rfl, by decide, "GROUP BY t".toList, ".host".toList, rfl, huse,
    by decide, .inl rfl⟩

-- So a column of it is renamed. A cast to the name of the column loses its type.
theorem resolveAll_namesake_and_cast :
    resolveAll namesake "ts".toList =
        "SELECT ts AS t, t.host FROM m t GROUP BY ts.host".toList ∧
      resolveAll "SELECT CAST(ts AS ts) FROM m".toList "ts".toList =
        "SELECT CAST(ts) FROM m".toList := by
  decide +kernel

end TimePanel.TimeAlias
