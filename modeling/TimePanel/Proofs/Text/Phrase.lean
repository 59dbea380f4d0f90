import TimePanel.Proofs.Text.Words

/-! Phrases: words of certain kinds, one after the other with blanks between them. A phrase of an
outcome stood in the text, where no hit began, unless the replacements make phrases. -/

namespace TimePanel.Text

-- Whether a text begins with words of these kinds. No word goes on after the last one.
inductive Phrase : List (List Char → Prop) → List Char → Prop
  | last {kind : List Char → Prop} {word rest : List Char} (hword : IsRun word) (hkind : kind word)
      (hrest : rest.head?.any isWord = false) : Phrase [kind] (word ++ rest)
  | more {kind : List Char → Prop} {kinds : List (List Char → Prop)} {word gap rest : List Char}
      (hword : IsRun word) (hkind : kind word) (hgap : IsGap gap) (hrest : Phrase kinds rest) :
      Phrase (kind :: kinds) (word ++ (gap ++ rest))

variable {recognise : Recogniser} {before : Option Char} {opener kind : List Char → Prop}
  {kinds part : List (List Char → Prop)} {text rest : List Char}
  {relation : List Char → List Char → Prop}

namespace Phrase

theorem ne_nil (h : Phrase kinds text) : text ≠ [] := by
  cases h with
  | last hword => exact List.append_ne_nil_of_left_ne_nil hword.1 _
  | more hword => exact List.append_ne_nil_of_left_ne_nil hword.1 _

theorem first (h : Phrase (kind :: kinds) text) : kind (text.takeWhile isWord) := by
  cases h with
  | last hword hkind hrest => rwa [takeWhile_run hword.2 hrest]
  | more hword hkind hgap => rwa [takeWhile_run hword.2 hgap.head_append]

end Phrase

-- Whether something of a kind stands where no hit begins.
def Escapes (recognise : Recogniser) (kind : List Char → Prop) (before : Option Char)
    (text : List Char) : Prop :=
  ∃ start tail, text = start ++ tail ∧ (start.getLast?.or before).any isWord = false ∧
    kind tail ∧ recognise (start.getLast?.or before) tail = none

namespace Escapes

theorem of_rest {part : List Char} (h : Escapes recognise kind (part.getLast?.or before) rest) :
    Escapes recognise kind before (part ++ rest) := by
  obtain ⟨start, tail, rfl, hbefore, htail, hnone⟩ := h
  exact ⟨part ++ start, tail, by simp, by rwa [last_append], htail, by rwa [last_append]⟩

theorem stands (h : Escapes recognise kind before text) : Stands kind before text := by
  obtain ⟨start, tail, rfl, hbefore, htail, -⟩ := h
  exact ⟨start, tail, rfl, hbefore, htail⟩

end Escapes

-- Hits that are replaced by words, where no phrase begins in what is put in, and no later part of
-- one that did not begin with the hit.
structure MakesNone (opener : List Char → Prop) (kinds : List (List Char → Prop))
    (taken value : List Char) : Prop where
  opens : Opens (· ≠ []) taken value
  lacks : Lacks opener value.head? value.tail
  whole : ∀ out, out.head?.any isWord = false → ¬ Phrase (opener :: kinds) (value ++ out)
  later : ∀ part, part <:+ kinds → ∀ rest out, rest.head?.any isWord = false →
    out.head?.any isWord = false → Phrase part (value ++ out) → Phrase part (taken ++ rest)

namespace Phrase

-- Where no hit begins the first word stays, with the blanks after it.
theorem of_kept (hopens : StandAlone recognise (Opens (· ≠ [])))
    (hnone : recognise before text = none)
    (hlater : ∀ before text, Phrase kinds (replaceFrom recognise before 0 text) → Phrase kinds text)
    (h : Phrase (kind :: kinds) (replaceFrom recognise before 0 text)) :
    Phrase (kind :: kinds) text := by
  have hnil : ¬ (([] : List Char) ≠ []) := fun h => h rfl
  generalize hout : replaceFrom recognise before 0 text = out at h
  cases h with
  | @last _ word out hword hkind hstops =>
      have hempty : ∀ before, Lacks (· ≠ []) before [] := fun _ => trivial
      have hlacks : Lacks (· ≠ []) word.head? word.tail := by
        simpa using Lacks.tail_of_run hword hempty rfl
      obtain ⟨rest, rfl, rfl⟩ :=
        hopens.exists_of_kept hnone hword.1 hlacks (fun _ => hstops) hout
      exact .last hword hkind ((hopens.head?_replaceFrom _ rest).1.symm.trans hstops)
  | @more _ _ word gap out hword hkind hgap hrest =>
      have hblanks : ∀ c ∈ gap, isWord c = false := fun c hc => isWord_of_isBlank (hgap.2 c hc)
      have hlacks : Lacks (· ≠ []) (word ++ gap).head? (word ++ gap).tail :=
        .tail_of_run hword (fun _ => .of_gap hblanks hnil) (any_head?_eq_false hblanks)
      rw [← List.append_assoc] at hout
      obtain ⟨rest, rfl, rfl⟩ := hopens.exists_of_kept hnone
        (List.append_ne_nil_of_left_ne_nil hword.1 gap) hlacks
        (.append hgap.1 (.of_gap hblanks) word) hout
      rw [List.append_assoc]
      exact .more hword hkind hgap (hlater _ _ hrest)

-- The later words of a phrase of the outcome begin the text, too.
theorem of_replaceFrom (hr : StandAlone recognise relation)
    (hnone : ∀ taken value, relation taken value → MakesNone opener kinds taken value)
    (hpart : part <:+ kinds) (before : Option Char) (text : List Char) :
    Phrase part (replaceFrom recognise before 0 text) → Phrase part text := by
  have hopens := hr.mono fun taken value h => (hnone taken value h).opens
  induction part generalizing before text with
  | nil => exact nofun
  | cons kind part ih =>
      intro h
      cases hfound : recognise before text with
      | none => exact of_kept hopens hfound (ih ((List.suffix_cons kind part).trans hpart)) h
      | some hit =>
          obtain ⟨taken, rest, rfl, hne, hlength, -, -, hrest, hrelation⟩ := hr _ _ _ hfound
          have hhit : recognise before (taken ++ rest) = some ⟨taken.length, hit.text⟩ := by
            rw [hfound, ← hlength]
          rw [replaceFrom_hit hne hhit] at h
          exact (hnone _ _ hrelation).later _ hpart rest _ hrest
            ((hopens.head?_replaceFrom _ rest).1.trans hrest) h

-- A phrase of the outcome stands in the text where no hit begins.
theorem escapes_of_replaceFrom (hr : StandAlone recognise relation)
    (hnone : ∀ taken value, relation taken value → MakesNone opener kinds taken value)
    (before : Option Char) (text : List Char) :
    Stands (Phrase (opener :: kinds)) before (replaceFrom recognise before 0 text) →
      Escapes recognise (Phrase (opener :: kinds)) before text := by
  have hopens := hr.mono fun taken value h => (hnone taken value h).opens
  refine scan_induction hr.turns (motive := fun before text =>
    Stands (Phrase (opener :: kinds)) before (replaceFrom recognise before 0 text) →
      Escapes recognise (Phrase (opener :: kinds)) before text) ?_ ?_ ?_ before text
  · rintro before ⟨start, tail, heq, -, hphrase⟩
    exact absurd (List.append_eq_nil_iff.mp heq.symm).2 hphrase.ne_nil
  · intro before c rest hkept ih hstands
    have hkeep := replaceFrom_keep hkept
    rw [hkeep, Stands.cons_iff, ← hkeep] at hstands
    rcases hstands with ⟨hbefore, hphrase⟩ | hlater
    · exact ⟨[], c :: rest, rfl, hbefore,
        of_kept hopens hkept (of_replaceFrom hr hnone (List.suffix_refl kinds)) hphrase, hkept⟩
    · have hrest : Escapes recognise (Phrase (opener :: kinds)) ([c].getLast?.or before) rest :=
        ih hlater
      exact hrest.of_rest
  · intro before taken rest value hne hrelation hhit ih hstands
    obtain ⟨-, hlast, hrest⟩ := hr.ends hhit
    obtain ⟨⟨-, hvalue, hlast', -⟩, hlacks, hwhole, -⟩ := hnone _ _ hrelation
    have hout := (hopens.head?_replaceFrom (taken.getLast?.or before) rest).1.trans hrest
    have hfirst (text : List Char) (h : Phrase (opener :: kinds) text) :
        opener (text.takeWhile isWord) := h.first
    obtain ⟨d, value, rfl⟩ : ∃ d tail, value = d :: tail := by
      cases value with
      | nil => cases hvalue
      | cons d tail => exact ⟨d, tail, rfl⟩
    rw [List.head?_cons, List.tail_cons] at hlacks
    rw [replaceFrom_hit hne hhit, List.cons_append, Stands.cons_iff] at hstands
    have hlater := hstands.resolve_left fun hfound => hwhole _ hout hfound.2
    rw [Stands.append_iff hfirst hlacks fun _ => hout, ← last_cons d value before,
      Stands.congr ((any_last_or hlast' before).trans (any_last_or hlast before).symm)] at hlater
    exact (ih hlater).of_rest

end Phrase

-- What one of many passes removes stays away, where no pass brings it in.
theorem not_stands_replaceEach {passes : List Recogniser}
    (hkept : ∀ recognise ∈ passes, ∀ text,
      Stands kind none (replaceAll recognise text) → Stands kind none text)
    (hgone : ∃ recognise ∈ passes, ∀ text, ¬ Stands kind none (replaceAll recognise text))
    (text : List Char) : ¬ Stands kind none (replaceEach passes text) := by
  obtain ⟨recognise, hmem, hgone⟩ := hgone
  obtain ⟨before, after, rfl⟩ := List.append_of_mem hmem
  have hafter : ∀ recognise ∈ after, ∀ text,
      Stands kind none (replaceAll recognise text) → Stands kind none text :=
    fun other hother => hkept other (by simp [hother])
  have hrun (text : List Char) :
      Stands kind none (replaceEach after text) → Stands kind none text := by
    clear hkept hmem
    induction after generalizing text with
    | nil => exact id
    | cons next after ih =>
        obtain ⟨hnext, hafter⟩ := List.forall_mem_cons.mp hafter
        exact fun h => hnext text (ih hafter (replaceAll next text) h)
  rw [replaceEach_append]
  exact fun h => hgone _ (hrun _ h)

end TimePanel.Text
