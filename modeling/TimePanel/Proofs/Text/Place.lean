import TimePanel.Proofs.Text.Runs

/-! The places of a text that a sequence of passes changes, each with all that stands around it. -/

namespace TimePanel.Text

variable {recognise : Recogniser} {relation : List Char → List Char → Prop}
  {start taken rest value text : List Char}

-- Where a hit is replaced: what stands before it, what it takes up, what comes in its place, and
-- what follows.
structure Place where
  start : List Char
  taken : List Char
  value : List Char
  rest : List Char
deriving Repr, DecidableEq

def placesFrom (recognise : Recogniser) (start : List Char) (skip : Nat) :
    List Char → List Place
  | [] => []
  | c :: rest =>
    if 0 < skip then placesFrom recognise (start ++ [c]) (skip - 1) rest
    else
      match recognise start.getLast? (c :: rest) with
      | some hit =>
          ⟨start, (c :: rest).take hit.length, hit.text, (c :: rest).drop hit.length⟩ ::
            placesFrom recognise (start ++ [c]) (hit.length - 1) rest
      | none => placesFrom recognise (start ++ [c]) 0 rest

-- The places of the hits of a text.
def places (recognise : Recogniser) (text : List Char) : List Place :=
  placesFrom recognise [] 0 text

-- A text from left to right, as in `scan_induction`, with all that has been passed.
theorem scan_induction_from (h : Turns recognise relation)
    {motive : List Char → List Char → Prop} (nil : ∀ start, motive start [])
    (keep : ∀ start c rest, recognise start.getLast? (c :: rest) = none →
      motive (start ++ [c]) rest → motive start (c :: rest))
    (hit : ∀ start taken rest value, taken ≠ [] → relation taken value →
      recognise start.getLast? (taken ++ rest) = some ⟨taken.length, value⟩ →
      motive (start ++ taken) rest → motive start (taken ++ rest))
    (start text : List Char) : motive start text := by
  refine scan_induction h (motive := fun before text =>
    ∀ start : List Char, start.getLast? = before → motive start text) ?_ ?_ ?_ _ text start rfl
  · intro _ start _
    exact nil start
  · rintro _ c rest hnone ih start rfl
    exact keep start c rest hnone (ih _ (by simp))
  · rintro _ taken rest value hne hrelation hhit ih start rfl
    exact hit start taken rest value hne hrelation hhit (ih _ List.getLast?_append)

theorem placesFrom_keep {c : Char} (h : recognise start.getLast? (c :: rest) = none) :
    placesFrom recognise start 0 (c :: rest) = placesFrom recognise (start ++ [c]) 0 rest := by
  simp [placesFrom, h]

theorem placesFrom_skip (recognise : Recogniser) (start word rest : List Char) :
    placesFrom recognise start word.length (word ++ rest) =
      placesFrom recognise (start ++ word) 0 rest := by
  induction word generalizing start with
  | nil => simp
  | cons c word ih =>
      rw [List.cons_append, placesFrom, if_pos (by simp), List.length_cons, Nat.add_sub_cancel, ih]
      simp

theorem placesFrom_hit (hne : taken ≠ [])
    (h : recognise start.getLast? (taken ++ rest) = some ⟨taken.length, value⟩) :
    placesFrom recognise start 0 (taken ++ rest) =
      ⟨start, taken, value, rest⟩ :: placesFrom recognise (start ++ taken) 0 rest := by
  obtain ⟨c, word, rfl⟩ := List.exists_cons_of_ne_nil hne
  rw [List.cons_append] at h ⊢
  simp only [placesFrom, Nat.lt_irrefl, ite_false, h, List.length_cons, Nat.add_sub_cancel,
    placesFrom_skip]
  simp

theorem of_mem_places (h : Turns recognise relation) {place : Place}
    (hmem : place ∈ places recognise text) :
    text = place.start ++ (place.taken ++ place.rest) ∧
      recognise place.start.getLast? (place.taken ++ place.rest) =
        some ⟨place.taken.length, place.value⟩ ∧ relation place.taken place.value := by
  revert hmem
  refine scan_induction_from h (motive := fun start text =>
    place ∈ placesFrom recognise start 0 text →
      start ++ text = place.start ++ (place.taken ++ place.rest) ∧
        recognise place.start.getLast? (place.taken ++ place.rest) =
          some ⟨place.taken.length, place.value⟩ ∧ relation place.taken place.value)
    ?_ ?_ ?_ [] text
  · intro start hmem
    cases hmem
  · intro start c rest hnone ih hmem
    rw [placesFrom_keep hnone] at hmem
    simpa using ih hmem
  · intro start taken rest value hne hrelation hhit ih hmem
    rw [placesFrom_hit hne hhit, List.mem_cons] at hmem
    rcases hmem with rfl | hmem
    · exact ⟨rfl, hhit, hrelation⟩
    · simpa using ih hmem

-- Whether a sequence of passes changes the text at places of a kind only.
def OnlyAt (proper : Place → Prop) : List Recogniser → List Char → Prop
  | [], _ => True
  | recognise :: passes, text =>
      (∀ place ∈ places recognise text, proper place) ∧
        OnlyAt proper passes (replaceAll recognise text)

-- Whether a pass brings nothing of a kind about, and takes it away only with a change where it
-- should make none.
def Keeps (proper : Place → Prop) (recognise : Recogniser) (kind : List Char → Prop) : Prop :=
  ∀ text, (Stands kind none (replaceAll recognise text) → Stands kind none text) ∧
    (Stands kind none text → (∃ place ∈ places recognise text, ¬ proper place) ∨
      Stands kind none (replaceAll recognise text))

-- Passes go together with what makes them change a text where they should not. No pass hides that
-- from another one, so it can be told from the text as it is given.
theorem onlyAt_iff {proper : Place → Prop} {passes : List (Recogniser × (List Char → Prop))}
    (hown : ∀ pass ∈ passes, ∀ text,
      Stands pass.2 none text ↔ ∃ place ∈ places pass.1 text, ¬ proper place)
    (hkeeps : ∀ pass ∈ passes, ∀ other ∈ passes, Keeps proper pass.1 other.2) (text : List Char) :
    OnlyAt proper (passes.map Prod.fst) text ↔ ∀ pass ∈ passes, ¬ Stands pass.2 none text := by
  induction passes generalizing text with
  | nil => simp [OnlyAt]
  | cons pass passes ih =>
      have hhead := hown pass List.mem_cons_self text
      have hlater := ih (fun other hmem => hown other (List.mem_cons_of_mem _ hmem))
        (fun first hfirst other hother =>
          hkeeps first (List.mem_cons_of_mem _ hfirst) other (List.mem_cons_of_mem _ hother))
        (replaceAll pass.1 text)
      have hproper : (∀ place ∈ places pass.1 text, proper place) ↔ ¬ Stands pass.2 none text := by
        rw [hhead]
        push Not
        rfl
      rw [List.map_cons, OnlyAt, List.forall_mem_cons, hlater, hproper]
      refine and_congr_right fun hnone => forall_congr' fun other => forall_congr' fun hmem => ?_
      obtain ⟨hback, hforth⟩ :=
        hkeeps pass List.mem_cons_self other (List.mem_cons_of_mem _ hmem) text
      exact not_congr ⟨hback, fun hother =>
        (hforth hother).resolve_left fun hplace => hnone (hhead.mpr hplace)⟩

end TimePanel.Text
