import TimePanel.Proofs.Query.Weight

/-! What the misuses of a filter look like, and how much shorter a repair makes a query. A query is
reported exactly if it is changed, and then it gets shorter. -/

namespace TimePanel

namespace Text

variable {recognise : Recogniser}

-- A recogniser that finds texts of a shape wherever they stand, and puts one value in their place.
def Finds (recognise : Recogniser) (shape : List Char → Prop) (value : List Char) : Prop :=
  ∀ before text hit, recognise before text = some hit ↔
    ∃ taken rest, text = taken ++ rest ∧ shape taken ∧ hit = ⟨taken.length, value⟩

namespace Finds

variable {shape : List Char → Prop} {value : List Char}

theorem turns (h : Finds recognise shape value) (hne : ∀ taken, shape taken → taken ≠ []) :
    Turns recognise fun taken put => shape taken ∧ put = value := by
  intro before text hit hhit
  obtain ⟨taken, rest, rfl, hshape, rfl⟩ := (h before text hit).mp hhit
  exact ⟨taken, rest, rfl, hne taken hshape, rfl, hshape, rfl⟩

theorem isSome_iff (h : Finds recognise shape value) {before : Option Char} {text : List Char} :
    (recognise before text).isSome ↔ ∃ taken rest, text = taken ++ rest ∧ shape taken := by
  rw [Option.isSome_iff_exists]
  constructor
  · rintro ⟨hit, hhit⟩
    obtain ⟨taken, rest, htext, hshape, -⟩ := (h before text hit).mp hhit
    exact ⟨taken, rest, htext, hshape⟩
  · rintro ⟨taken, rest, htext, hshape⟩
    exact ⟨_, (h before text _).mpr ⟨taken, rest, htext, hshape, rfl⟩⟩

-- Such a recogniser finds something exactly if a text of the shape stands somewhere.
theorem occurs_iff (h : Finds recognise shape value) (hne : ∀ taken, shape taken → taken ≠ [])
    {text : List Char} : occurs recognise text = true ↔
      ∃ start taken rest, text = start ++ (taken ++ rest) ∧ shape taken := by
  constructor
  · intro hoccurs
    obtain ⟨start, tail, rfl, -, hsome⟩ := exists_of_occurs hoccurs
    obtain ⟨taken, rest, rfl, hshape⟩ := h.isSome_iff.mp hsome
    exact ⟨start, taken, rest, rfl, hshape⟩
  · rintro ⟨start, taken, rest, rfl, hshape⟩
    exact occurs_of_recognise (by simp [hne taken hshape])
      (h.isSome_iff.mpr ⟨taken, rest, rfl, hshape⟩)

end Finds

theorem replaceEach_lt {α : Type} [PartialOrder α] {weight : List Char → α}
    {passes : List Recogniser} (h : ∀ recognise ∈ passes, LightensAtHits weight recognise)
    {text : List Char} (hoccurs : ∃ recognise ∈ passes, occurs recognise text = true) :
    weight (replaceEach passes text) < weight text := by
  induction passes with
  | nil => simp at hoccurs
  | cons recognise passes ih =>
      obtain ⟨hfirst, hrest⟩ := List.forall_mem_cons.mp h
      have hlater := replaceEach_le (fun other hmem => (hrest other hmem).lightens)
        (replaceAll recognise text)
      rw [replaceEach, List.foldl_cons]
      cases hfound : occurs recognise text with
      | true => exact hlater.trans_lt (hfirst text hfound)
      | false =>
          rw [replaceAll_of_not_occurs hfound]
          obtain ⟨other, hmem, hother⟩ := hoccurs
          rcases List.mem_cons.mp hmem with rfl | hmem
          · rw [hfound] at hother
            cases hother
          · exact ih hrest ⟨other, hmem, hother⟩

-- How long a text is.
def extent (text : List Char) : Int := tally (fun _ => true) text

theorem extent_eq (text : List Char) : extent text = text.length := by
  simp [extent, tally]

theorem lightensAtHits_extent
    (h : Turns recognise fun taken value => value.length < taken.length) :
    LightensAtHits extent recognise :=
  lightensAtHits_tally (h.mono fun taken value hlt => by simpa using hlt)

end Text

open Text

namespace Misuse

-- A filter, blanks, and an argument in brackets that ends at the first closing one.
def IsCall (taken : List Char) : Prop :=
  ∃ gap inside, taken = filterToken ++ (gap ++ '(' :: (inside ++ [')'])) ∧
    (∀ c ∈ gap, isBlank c = true) ∧ ')' ∉ inside

def IsQuoted (taken : List Char) : Prop :=
  ∃ opening closing, taken = opening :: (filterToken ++ [closing]) ∧
    isQuote opening = true ∧ isQuote closing = true

-- A filter with blanks after its dollar sign.
def IsSpaced (taken : List Char) : Prop :=
  ∃ gap, taken = '$' :: (gap ++ filterToken.drop 1) ∧ IsGap gap

theorem IsCall.length_lt {taken : List Char} (h : IsCall taken) :
    filterToken.length < taken.length := by
  obtain ⟨gap, inside, rfl, -⟩ := h
  simp only [List.length_append, List.length_cons]
  omega

theorem IsQuoted.length_lt {taken : List Char} (h : IsQuoted taken) :
    filterToken.length < taken.length := by
  obtain ⟨opening, closing, rfl, -⟩ := h
  simp only [List.length_append, List.length_cons]
  omega

theorem IsSpaced.length_lt {taken : List Char} (h : IsSpaced taken) :
    filterToken.length < taken.length := by
  obtain ⟨gap, rfl, hgap, -⟩ := h
  have hpos := List.length_pos_iff.mpr hgap
  have htoken : filterToken.length = (filterToken.drop 1).length + 1 := rfl
  simp only [List.length_append, List.length_cons]
  omega

theorem finds_call : Finds recogniseCall IsCall filterToken := by
  intro before text found
  constructor
  · intro h
    simp only [recogniseCall, Option.bind_eq_bind, Option.bind_eq_some_iff] at h
    obtain ⟨rest, hrest, h⟩ := h
    obtain rfl := after?_eq_some_iff.mp hrest
    split at h
    · next inside hinside =>
      split at h
      · next bracket after hafter =>
        cases h
        have hbracket : bracket = ')' := by
          have := List.head?_dropWhile_not (p := fun c => decide (c ≠ ')')) (l := inside)
          rw [hafter] at this
          simpa using this
        subst hbracket
        have hsplit : filterToken ++ rest = filterToken ++ (rest.takeWhile isBlank ++
            '(' :: (inside.takeWhile (· ≠ ')') ++ [')'])) ++ after := by
          conv_lhs => rw [← List.takeWhile_append_dropWhile (p := isBlank) (l := rest), hinside,
            ← List.takeWhile_append_dropWhile (p := fun c => decide (c ≠ ')')) (l := inside), hafter]
          simp
        refine ⟨_, after, hsplit, ⟨rest.takeWhile isBlank, inside.takeWhile (· ≠ ')'), rfl,
          fun c hc => List.all_eq_true.mp List.all_takeWhile c hc, fun hmem => ?_⟩, ?_⟩
        · have := List.all_eq_true.mp List.all_takeWhile ')' hmem
          simp at this
        · rw [hsplit, hit_append]
      · cases h
    · cases h
  · rintro ⟨taken, rest, rfl, ⟨gap, inside, rfl, hgap, hinside⟩, rfl⟩
    have hblanks : (gap ++ '(' :: (inside ++ ')' :: rest)).dropWhile isBlank =
        '(' :: (inside ++ ')' :: rest) := by
      rw [List.dropWhile_append_of_pos hgap, List.dropWhile_cons_of_neg (by decide)]
    have hargument : (inside ++ ')' :: rest).dropWhile (· ≠ ')') = ')' :: rest := by
      rw [List.dropWhile_append_of_pos, List.dropWhile_cons_of_neg (by simp)]
      intro c hc
      exact decide_eq_true (fun heq => hinside (heq ▸ hc))
    have htext : filterToken ++ (gap ++ '(' :: (inside ++ [')'])) ++ rest =
        filterToken ++ (gap ++ '(' :: (inside ++ ')' :: rest)) := by simp
    simp only [recogniseCall, htext, after?_append, Option.bind_eq_bind, Option.bind_some, hblanks,
      hargument, Option.some.injEq]
    rw [← htext, hit_append]

theorem finds_quotes : Finds recogniseQuotes IsQuoted filterToken := by
  intro before text found
  constructor
  · intro h
    unfold recogniseQuotes at h
    split at h
    · next opening rest =>
      split at h
      · cases h
      · next hopening =>
        split at h
        · next closing after hafter =>
          obtain rfl := after?_eq_some_iff.mp hafter
          split at h
          · next hclosing =>
            cases h
            refine ⟨opening :: (filterToken ++ [closing]), after, by simp,
              ⟨opening, closing, rfl, by simpa using hopening, hclosing⟩, ?_⟩
            rw [← hit_append _ after]
            simp
          · cases h
        · cases h
    · cases h
  · rintro ⟨taken, rest, rfl, ⟨opening, closing, rfl, hopening, hclosing⟩, rfl⟩
    have htext : opening :: (filterToken ++ [closing]) ++ rest =
        opening :: (filterToken ++ closing :: rest) := by simp
    rw [← hit_append _ rest, htext]
    simp [recogniseQuotes, hopening, hclosing]

theorem finds_blanks : Finds recogniseBlanks IsSpaced filterToken := by
  intro before text found
  constructor
  · intro h
    obtain ⟨taken, rest, htext, -, hlength, gap, rfl, hgap, hvalue⟩ := turns_blanks _ _ _ h
    obtain ⟨length, value⟩ := found
    subst hlength hvalue
    exact ⟨_, rest, htext, ⟨gap, rfl, hgap⟩, rfl⟩
  · rintro ⟨taken, rest, rfl, ⟨gap, rfl, hgap⟩, rfl⟩
    have htext : '$' :: (gap ++ filterToken.drop 1) ++ rest =
        '$' :: (gap ++ (filterToken.drop 1 ++ rest)) := by simp
    have hblanks : afterBlanks? (gap ++ (filterToken.drop 1 ++ rest)) =
        some (filterToken.drop 1 ++ rest) :=
      afterBlanks?_append hgap (show isBlank '_' = false by decide)
    rw [← hit_append _ rest, htext]
    simp only [recogniseBlanks, Option.bind_eq_bind, hblanks, Option.bind_some, after?_append]

theorem turns_call : Turns recogniseCall fun taken value => IsCall taken ∧ value = filterToken :=
  finds_call.turns fun _ h => List.ne_nil_of_length_pos (Nat.zero_lt_of_lt h.length_lt)

theorem turns_quotes :
    Turns recogniseQuotes fun taken value => IsQuoted taken ∧ value = filterToken :=
  finds_quotes.turns fun _ h => List.ne_nil_of_length_pos (Nat.zero_lt_of_lt h.length_lt)

-- Each repair leaves out at least one character of every misuse.
theorem lightensAtHits_extent (misuse : Misuse) : LightensAtHits extent misuse.recognise := by
  cases misuse with
  | call =>
      refine Text.lightensAtHits_extent (turns_call.mono ?_)
      rintro taken value ⟨hcall, rfl⟩
      exact hcall.length_lt
  | quotes =>
      refine Text.lightensAtHits_extent (turns_quotes.mono ?_)
      rintro taken value ⟨hquoted, rfl⟩
      exact hquoted.length_lt
  | blanks =>
      refine Text.lightensAtHits_extent (turns_blanks.mono ?_)
      rintro taken value ⟨gap, rfl, hgap, rfl⟩
      exact IsSpaced.length_lt ⟨gap, rfl, hgap⟩
  | atSign =>
      refine Text.lightensAtHits_extent (turns_atSign.mono ?_)
      rintro taken value ⟨start, name, rfl, rfl⟩
      simp

end Misuse

namespace Sanitizer

theorem repair_eq (query : List Char) :
    repair query = replaceEach (Misuse.all.map Misuse.recognise) query := rfl

theorem problems_ne_nil_iff {query : List Char} :
    problems query ≠ [] ↔
      ∃ recognise ∈ Misuse.all.map Misuse.recognise, occurs recognise query = true := by
  simp [problems, misuses, Misuse.occursIn, List.filter_eq_nil_iff]

-- Detection looks at the query as it is given, while each repair comes upon what the ones before
-- it have left. The first repair that changes anything still has the query as it was given.
theorem length_repair_lt {query : List Char} (h : problems query ≠ []) :
    (repair query).length < query.length := by
  have hpasses : ∀ recognise ∈ Misuse.all.map Misuse.recognise,
      LightensAtHits extent recognise := by
    intro recognise hmem
    obtain ⟨misuse, -, rfl⟩ := List.mem_map.mp hmem
    exact misuse.lightensAtHits_extent
  have hlt := replaceEach_lt hpasses (problems_ne_nil_iff.mp h)
  rw [← repair_eq, extent_eq, extent_eq] at hlt
  exact Int.ofNat_lt.mp hlt

-- Nothing is edited silently, and nothing is complained of without an edit.
theorem reports_iff_shortens (query : List Char) :
    ((sanitize query).2 ≠ [] ↔ (sanitize query).1 ≠ query) ∧
      ((sanitize query).1 ≠ query ↔ (sanitize query).1.length < query.length) := by
  have hreported : problems query ≠ [] → (repair query).length < query.length := length_repair_lt
  have hchanged : repair query ≠ query → problems query ≠ [] :=
    mt repair_of_problems_eq_nil
  have hshorter : (repair query).length < query.length → repair query ≠ query :=
    fun hlt heq => absurd (congrArg List.length heq) hlt.ne
  exact ⟨⟨fun h => hshorter (hreported h), hchanged⟩, ⟨fun h => hreported (hchanged h), hshorter⟩⟩

end Sanitizer

end TimePanel
