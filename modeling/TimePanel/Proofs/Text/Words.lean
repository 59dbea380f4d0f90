import Mathlib.Data.List.Basic
import TimePanel.Proofs.Text.Place

/-! Replacements that begin with a word of a kind. What lacks such words passes them unchanged, in the
text and in the outcome alike. -/

namespace TimePanel.Text

variable {recognise : Recogniser} {before other : Option Char}
  {first kind : List Char → Prop} {text part rest out word a b : List Char}

-- Whether a text is a run of characters of words.
def IsRun (word : List Char) : Prop := word ≠ [] ∧ ∀ c ∈ word, isWord c = true

theorem IsRun.head (h : IsRun word) : (word ++ rest).head?.any isWord = true := by
  rw [any_head?_append h.1]
  exact any_head?_of_forall h.1 h.2

theorem IsRun.last (h : IsRun word) : word.getLast?.any isWord = true := by
  obtain ⟨c, hlast⟩ : ∃ c, word.getLast? = some c := by
    rw [← Option.isSome_iff_exists, List.getLast?_isSome]
    exact h.1
  simpa [hlast] using h.2 c (List.mem_of_getLast? hlast)

-- Whether no word goes on from a part to what follows it.
def IsParted (part rest : List Char) : Prop :=
  part.getLast?.any isWord = true → rest.head?.any isWord = false

theorem IsParted.tail {c : Char} (h : IsParted (c :: part) rest) : IsParted part rest := by
  intro hlast
  refine h ?_
  rw [List.getLast?_cons]
  cases hpart : part.getLast? with
  | none => simp [hpart] at hlast
  | some d => simpa [hpart] using hlast

theorem IsParted.of_gap (h : ∀ c ∈ part, isWord c = false) : IsParted part rest := by
  intro hlast
  rw [Option.any_eq_true] at hlast
  obtain ⟨c, hc, hword⟩ := hlast
  rw [h c (List.mem_of_getLast? hc)] at hword
  cases hword

theorem IsParted.append (hne : part ≠ []) (h : IsParted part rest) (start : List Char) :
    IsParted (start ++ part) rest := by
  intro hlast
  rw [List.getLast?_append_of_ne_nil _ hne] at hlast
  exact h hlast

theorem any_last_or (h : part.getLast?.any isWord = true) (before : Option Char) :
    (part.getLast?.or before).any isWord = true := by
  rw [Option.any_eq_true] at h
  obtain ⟨c, hc, hword⟩ := h
  simp [hc, hword]

theorem takeWhile_parted (hne : part ≠ []) (h : IsParted part rest) :
    (part ++ rest).takeWhile isWord = part.takeWhile isWord := by
  induction part with
  | nil => exact absurd rfl hne
  | cons c part ih =>
      rw [List.cons_append, List.takeWhile_cons, List.takeWhile_cons]
      cases hc : isWord c with
      | false => rfl
      | true =>
          rw [if_pos rfl, if_pos rfl]
          by_cases hpart : part = []
          · subst hpart
            rw [List.nil_append, takeWhile_eq_nil_iff.mpr (h (by simpa using hc))]
            rfl
          · rw [ih hpart h.tail]

-- Whether no word of a part is of a kind. At the start a longer word may be under way.
def Lacks (first : List Char → Prop) : Option Char → List Char → Prop
  | _, [] => True
  | before, c :: part =>
      (before.any isWord = false → ¬ first ((c :: part).takeWhile isWord)) ∧
        Lacks first (some c) part

instance Lacks.instDecidable {first : List Char → Prop} [DecidablePred first] :
    (before : Option Char) → (part : List Char) → Decidable (Lacks first before part)
  | _, [] => inferInstanceAs (Decidable True)
  | before, c :: part =>
      have : Decidable (Lacks first (some c) part) := Lacks.instDecidable (some c) part
      inferInstanceAs (Decidable ((before.any isWord = false →
        ¬ first ((c :: part).takeWhile isWord)) ∧ Lacks first (some c) part))

theorem spells_takeWhile (hspells : Spells a b) (hwords : a.map isWord = b.map isWord) :
    Spells (a.takeWhile isWord) (b.takeWhile isWord) := by
  induction a generalizing b with
  | nil =>
      obtain rfl : b = [] := List.map_eq_nil_iff.mp hwords.symm
      rfl
  | cons c a ih =>
      obtain ⟨d, b, rfl, hd, hb⟩ := List.map_eq_cons_iff.mp hspells.symm
      obtain ⟨hword, hwords⟩ := List.cons.inj hwords
      rw [List.takeWhile_cons, List.takeWhile_cons, ← hword]
      split
      · exact List.cons_eq_cons.mpr ⟨hd.symm, ih hb.symm hwords⟩
      · rfl

namespace Lacks

theorem mono (h : Lacks first none part) : Lacks first before part := by
  cases part with
  | nil => trivial
  | cons c part => exact ⟨fun _ => h.1 rfl, h.2⟩

theorem not_first (h : Lacks first none part) (hne : part ≠ []) :
    ¬ first (part.takeWhile isWord) := by
  obtain ⟨c, part, rfl⟩ := List.exists_cons_of_ne_nil hne
  exact h.1 rfl

theorem tail (h : Lacks first none part) : Lacks first part.head? part.tail := by
  cases part with
  | nil => trivial
  | cons c part => exact h.2

theorem append (ha : Lacks first before a) (hb : Lacks first (a.getLast?.or before) b)
    (hparted : IsParted a b) : Lacks first before (a ++ b) := by
  induction a generalizing before with
  | nil => simpa using hb
  | cons c a ih =>
      rw [last_cons] at hb
      refine ⟨?_, ih ha.2 hb hparted.tail⟩
      rw [List.append_eq, ← List.cons_append, takeWhile_parted (by simp) hparted]
      exact ha.1

theorem of_inside (hword : ∀ c ∈ word, isWord c = true) (hbefore : before.any isWord = true) :
    Lacks first before word := by
  induction word generalizing before with
  | nil => trivial
  | cons c word ih =>
      obtain ⟨hc, hword⟩ := List.forall_mem_cons.mp hword
      exact ⟨fun h => absurd hbefore (by simp [h]), ih hword (by simpa using hc)⟩

theorem of_word (hword : ∀ c ∈ word, isWord c = true) (hfirst : ¬ first word) :
    Lacks first before word := by
  cases word with
  | nil => trivial
  | cons c word =>
      obtain ⟨hc, hrest⟩ := List.forall_mem_cons.mp hword
      refine ⟨fun _ => ?_, of_inside hrest (by simpa using hc)⟩
      rwa [List.takeWhile_eq_self_iff.mpr hword]

theorem of_gap (hgap : ∀ c ∈ part, isWord c = false) (hnil : ¬ first []) :
    Lacks first before part := by
  induction part generalizing before with
  | nil => trivial
  | cons c part ih =>
      obtain ⟨hc, hrest⟩ := List.forall_mem_cons.mp hgap
      refine ⟨fun _ => ?_, ih hrest⟩
      rw [List.takeWhile_cons_of_neg (by simp [hc])]
      exact hnil

-- Another spelling lacks the words too, if it has words at the same places.
theorem of_spells (hfirst : ∀ {a b}, Spells a b → first a → first b) (hspells : Spells a b)
    (hwords : a.map isWord = b.map isWord) (h : Lacks first before b) : Lacks first before a := by
  induction a generalizing b before with
  | nil => trivial
  | cons c a ih =>
      have hrun := spells_takeWhile hspells hwords
      obtain ⟨d, b, rfl, -, hb⟩ := List.map_eq_cons_iff.mp hspells.symm
      obtain ⟨hword, hwords⟩ := List.cons.inj hwords
      refine ⟨fun hbefore hc => h.1 hbefore (hfirst hrun hc), ih hb.symm hwords ?_⟩
      cases b with
      | nil => trivial
      | cons e b => exact ⟨fun hd => h.2.1 (by simpa [hword] using hd), h.2.2⟩

-- A word lacks all kinds of words but at its own head.
theorem tail_of_run (hrun : IsRun word) (h : ∀ before, Lacks first before rest)
    (hrest : rest.head?.any isWord = false) :
    Lacks first (word ++ rest).head? (word ++ rest).tail := by
  obtain ⟨c, word, rfl⟩ := List.exists_cons_of_ne_nil hrun.1
  obtain ⟨hc, hinside⟩ := List.forall_mem_cons.mp hrun.2
  exact (of_inside hinside (by simpa using hc)).append (h _) fun _ => hrest

end Lacks

namespace Stands

-- Something of a kind that begins with a certain word does not begin where that word is lacking.
theorem append_iff (hkind : ∀ text, kind text → first (text.takeWhile isWord))
    (hlacks : Lacks first before part) (hparted : IsParted part rest) :
    Stands kind before (part ++ rest) ↔ Stands kind (part.getLast?.or before) rest := by
  induction part generalizing before with
  | nil => simp
  | cons c part ih =>
      have hnone : ¬ (before.any isWord = false ∧ kind (c :: part ++ rest)) := by
        rintro ⟨hbefore, hfound⟩
        have hfirst := hkind _ hfound
        rw [takeWhile_parted (by simp) hparted] at hfirst
        exact hlacks.1 hbefore hfirst
      rw [List.cons_append] at hnone ⊢
      rw [cons_iff, last_cons, ih hlacks.2 hparted.tail, or_iff_right hnone]

theorem of_rest (h : Stands kind (part.getLast?.or before) rest) :
    Stands kind before (part ++ rest) := by
  obtain ⟨start, tail, rfl, hbefore, htail⟩ := h
  exact ⟨part ++ start, tail, by simp, by rwa [last_append], htail⟩

theorem congr (h : before.any isWord = other.any isWord) :
    Stands kind before text ↔ Stands kind other text := by
  cases text with
  | nil => simp [Stands, h]
  | cons c rest => rw [cons_iff, cons_iff, h]

end Stands

-- Hits that begin and end with words, as what comes in their place does, where the words that they
-- begin with are of a kind.
def Opens (first : List Char → Prop) (taken value : List Char) : Prop :=
  taken.head?.any isWord = true ∧ value.head?.any isWord = true ∧
    value.getLast?.any isWord = true ∧ first (taken.takeWhile isWord) ∧
    first (value.takeWhile isWord)

namespace StandAlone

variable {relation : List Char → List Char → Prop}

theorem first_of_eq_some (h : StandAlone recognise (Opens first)) {hit : Hit}
    (hhit : recognise before text = some hit) :
    before.any isWord = false ∧ first (text.takeWhile isWord) := by
  obtain ⟨taken, rest, rfl, hne, -, hbefore, -, hrest, -, -, -, hfirst, -⟩ := h _ _ _ hhit
  rw [takeWhile_parted hne fun _ => hrest]
  exact ⟨hbefore, hfirst⟩

theorem eq_none_of_lacks (h : StandAlone recognise (Opens first)) {c : Char}
    (hlacks : Lacks first before (c :: part)) (hparted : IsParted (c :: part) rest) :
    recognise before (c :: (part ++ rest)) = none := by
  rw [Option.eq_none_iff_forall_ne_some]
  intro hit hhit
  obtain ⟨hbefore, hfirst⟩ := h.first_of_eq_some hhit
  rw [← List.cons_append, takeWhile_parted (by simp) hparted] at hfirst
  exact hlacks.1 hbefore hfirst

-- Whether a word begins, and with which other character the text begins, stays as it is.
theorem head?_replaceFrom (h : StandAlone recognise (Opens first)) (before : Option Char)
    (text : List Char) :
    (replaceFrom recognise before 0 text).head?.any isWord = text.head?.any isWord ∧
      (text.head?.any isWord = false →
        (replaceFrom recognise before 0 text).head? = text.head?) := by
  refine scan_induction h.turns (motive := fun before text =>
    (replaceFrom recognise before 0 text).head?.any isWord = text.head?.any isWord ∧
      (text.head?.any isWord = false →
        (replaceFrom recognise before 0 text).head? = text.head?)) ?_ ?_ ?_ before text
  · intro before
    exact ⟨rfl, fun _ => rfl⟩
  · intro before c rest hnone _
    rw [replaceFrom_keep hnone]
    exact ⟨rfl, fun _ => rfl⟩
  · rintro before taken rest value hne ⟨htaken, hvalue, -⟩ hhit _
    have hput : value ≠ [] := by
      rintro rfl
      cases hvalue
    rw [replaceFrom_hit hne hhit, any_head?_append hput, any_head?_append hne, htaken, hvalue]
    exact ⟨rfl, fun h => absurd h (by decide)⟩

-- A word of the kind stands at the head of the outcome exactly if one stands at that of the text.
theorem first_replaceFrom_iff (h : StandAlone recognise (Opens first)) (before : Option Char)
    (text : List Char) :
    first ((replaceFrom recognise before 0 text).takeWhile isWord) ↔
      first (text.takeWhile isWord) := by
  refine scan_induction h.turns (motive := fun before text =>
    first ((replaceFrom recognise before 0 text).takeWhile isWord) ↔
      first (text.takeWhile isWord)) ?_ ?_ ?_ before text
  · intro before
    exact Iff.rfl
  · intro before c rest hnone _
    rw [replaceFrom_keep hnone, List.takeWhile_cons, List.takeWhile_cons]
    split
    · next hc => rw [h.takeWhile_replaceFrom (some c) rest (by simpa using hc)]
    · rfl
  · rintro before taken rest value hne ⟨-, hvalue, -, hfirst, hfirst'⟩ hhit _
    have hput : value ≠ [] := by
      rintro rfl
      cases hvalue
    have hrest := (h.ends hhit).2.2
    have hout := (h.head?_replaceFrom (taken.getLast?.or before) rest).1.trans hrest
    rw [replaceFrom_hit hne hhit, takeWhile_parted hput fun _ => hout,
      takeWhile_parted hne fun _ => hrest]
    exact iff_of_true hfirst' hfirst

-- What lacks the words of the kind is passed over.
theorem replaceFrom_append (h : StandAlone recognise (Opens first))
    (hlacks : Lacks first before part) (hparted : IsParted part rest) :
    replaceFrom recognise before 0 (part ++ rest) =
      part ++ replaceFrom recognise (part.getLast?.or before) 0 rest := by
  induction part generalizing before with
  | nil => simp
  | cons c part ih =>
      rw [List.cons_append, replaceFrom_keep (h.eq_none_of_lacks hlacks hparted),
        ih hlacks.2 hparted.tail, last_cons]
      rfl

theorem placesFrom_append (h : StandAlone recognise (Opens first)) {start : List Char}
    (hlacks : Lacks first start.getLast? part) (hparted : IsParted part rest) :
    placesFrom recognise start 0 (part ++ rest) = placesFrom recognise (start ++ part) 0 rest := by
  induction part generalizing start with
  | nil => simp
  | cons c part ih =>
      have hlast : (start ++ [c]).getLast? = some c := by simp
      rw [List.cons_append, placesFrom_keep (h.eq_none_of_lacks hlacks hparted),
        ih (hlast ▸ hlacks.2) hparted.tail]
      simp

-- In the outcome it stands only where it stood in the text.
theorem exists_of_replaceFrom_eq (h : StandAlone recognise (Opens first))
    (hlacks : Lacks first before part) (hparted : IsParted part out)
    (heq : replaceFrom recognise before 0 text = part ++ out) :
    ∃ rest, text = part ++ rest ∧
      replaceFrom recognise (part.getLast?.or before) 0 rest = out := by
  induction part generalizing before text with
  | nil => exact ⟨text, rfl, by simpa using heq⟩
  | cons c part ih =>
      have hnone : recognise before text = none := by
        rw [Option.eq_none_iff_forall_ne_some]
        intro hit hhit
        obtain ⟨hbefore, hfirst⟩ := h.first_of_eq_some hhit
        rw [← h.first_replaceFrom_iff before, heq, takeWhile_parted (by simp) hparted] at hfirst
        exact hlacks.1 hbefore hfirst
      cases text with
      | nil => cases heq
      | cons d text =>
          rw [replaceFrom_keep hnone] at heq
          obtain ⟨rfl, hrest⟩ := List.cons.inj heq
          obtain ⟨rest, rfl, hout⟩ := ih hlacks.2 hparted.tail hrest
          exact ⟨rest, rfl, by rwa [last_cons]⟩

-- So does what lacks them after its first character, where no hit begins.
theorem exists_of_kept (h : StandAlone recognise (Opens first)) (hnone : recognise before text = none)
    (hne : part ≠ []) (hlacks : Lacks first part.head? part.tail) (hparted : IsParted part out)
    (heq : replaceFrom recognise before 0 text = part ++ out) :
    ∃ rest, text = part ++ rest ∧
      replaceFrom recognise (part.getLast?.or before) 0 rest = out := by
  obtain ⟨c, part, rfl⟩ := List.exists_cons_of_ne_nil hne
  cases text with
  | nil => cases heq
  | cons d text =>
      rw [replaceFrom_keep hnone] at heq
      obtain ⟨rfl, hafter⟩ := List.cons.inj heq
      obtain ⟨rest, rfl, hrest⟩ := h.exists_of_replaceFrom_eq hlacks hparted.tail hafter
      exact ⟨rest, rfl, by rwa [last_cons]⟩

end StandAlone

-- Whether a text begins with something of a shape, and what follows that is of some kind.
def Begins (shape ends : List Char → Prop) (text : List Char) : Prop :=
  ∃ part rest, text = part ++ rest ∧ shape part ∧ ends rest

-- A shape that begins with a word of one kind and then lacks those of another one, up to where no
-- word goes on.
structure IsPhrase (opener first shape ends : List Char → Prop) : Prop where
  opens : ∀ part, shape part → part ≠ [] ∧ opener (part.takeWhile isWord)
  lacks : ∀ part, shape part → Lacks first part.head? part.tail
  stops : ∀ rest, ends rest → rest.head?.any isWord = false
  looks : ∀ rest other, rest.head? = other.head? → ends rest → ends other

-- A hit begins nothing that begins with a word of the other kind but at its own head, and what
-- comes in its place begins nothing of the sort at all.
def Respects (opener first kind : List Char → Prop) (taken value : List Char) : Prop :=
  Opens first taken value ∧ Lacks opener taken.head? taken.tail ∧
    Lacks opener value.head? value.tail ∧
    ∀ rest, rest.head?.any isWord = false → ¬ kind (value ++ rest)

namespace IsPhrase

variable {opener shape ends : List Char → Prop}

theorem opener_of_begins (h : IsPhrase opener first shape ends) (hbegins : Begins shape ends text) :
    opener (text.takeWhile isWord) := by
  obtain ⟨part, rest, rfl, hshape, hends⟩ := hbegins
  obtain ⟨hne, hopener⟩ := h.opens part hshape
  rwa [takeWhile_parted hne fun _ => h.stops rest hends]

-- After its first character a phrase stays as it is, in both directions.
theorem begins_replaceFrom_iff (h : IsPhrase opener first shape ends)
    (hr : StandAlone recognise (Opens first)) (c : Char) (rest : List Char) :
    Begins shape ends (c :: replaceFrom recognise (some c) 0 rest) ↔
      Begins shape ends (c :: rest) := by
  have htail {part : List Char} (hshape : shape part) :
      ∃ d tail, part = d :: tail ∧ Lacks first (some d) tail := by
    obtain ⟨d, tail, rfl⟩ := List.exists_cons_of_ne_nil (h.opens part hshape).1
    exact ⟨d, tail, rfl, h.lacks _ hshape⟩
  constructor
  · rintro ⟨part, out, heq, hshape, hends⟩
    obtain ⟨d, tail, rfl, hlacks⟩ := htail hshape
    obtain ⟨rfl, htext⟩ := List.cons.inj heq
    obtain ⟨after, rfl, rfl⟩ :=
      hr.exists_of_replaceFrom_eq hlacks (fun _ => h.stops out hends) htext
    obtain ⟨hword, hhead⟩ := hr.head?_replaceFrom (tail.getLast?.or (some c)) after
    exact ⟨c :: tail, after, rfl, hshape, h.looks _ _ (hhead (hword ▸ h.stops _ hends)) hends⟩
  · rintro ⟨part, after, heq, hshape, hends⟩
    obtain ⟨d, tail, rfl, hlacks⟩ := htail hshape
    obtain ⟨rfl, rfl⟩ := List.cons.inj heq
    have hstops := h.stops after hends
    obtain ⟨-, hhead⟩ := hr.head?_replaceFrom (tail.getLast?.or (some c)) after
    refine ⟨c :: tail, _, ?_, hshape, h.looks _ _ (hhead hstops).symm hends⟩
    rw [List.append_eq, hr.replaceFrom_append hlacks fun _ => hstops]
    rfl

-- What begins with other words begins no phrase, and neither does what comes in its place.
theorem not_begins (h : IsPhrase opener first shape ends) {taken value : List Char}
    (hopens : Opens first taken value) (hapart : ∀ word, first word → ¬ opener word)
    (hrest : rest.head?.any isWord = false) :
    ¬ Begins shape ends (taken ++ rest) ∧ ¬ Begins shape ends (value ++ rest) := by
  obtain ⟨htaken, hvalue, -, hfirst, hfirst'⟩ := hopens
  have hall {text : List Char} (hhead : text.head?.any isWord = true)
      (hword : first (text.takeWhile isWord)) : ¬ Begins shape ends (text ++ rest) := by
    intro hbegins
    have hopener := h.opener_of_begins hbegins
    have hne : text ≠ [] := by
      rintro rfl
      cases hhead
    rw [takeWhile_parted hne fun _ => hrest] at hopener
    exact hapart _ hword hopener
  exact ⟨hall htaken hfirst, hall hvalue hfirst'⟩

end IsPhrase

section Respects

variable {opener shape ends : List Char → Prop} {relation : List Char → List Char → Prop}

theorem StandAlone.opens (hr : StandAlone recognise relation)
    (hrespects : ∀ taken value, relation taken value → Respects opener first kind taken value) :
    StandAlone recognise (Opens first) :=
  hr.mono fun taken value h => (hrespects taken value h).1

-- Where a hit is replaced nothing begins but at the head of the hit.
theorem Respects.stands_iff {taken value : List Char}
    (h : Respects opener first (Begins shape ends) taken value)
    (hphrase : IsPhrase opener first shape ends) (hlast : taken.getLast?.any isWord = true)
    (hrest : rest.head?.any isWord = false) (hout : out.head?.any isWord = false)
    (before : Option Char) :
    (Stands (Begins shape ends) before (taken ++ rest) ↔
      (before.any isWord = false ∧ Begins shape ends (taken ++ rest)) ∨
        Stands (Begins shape ends) (taken.getLast?.or before) rest) ∧
    (Stands (Begins shape ends) before (value ++ out) ↔
      Stands (Begins shape ends) (taken.getLast?.or before) out) := by
  obtain ⟨⟨htaken, hvalue, hlast', -⟩, hlacks, hlacks', hnone⟩ := h
  have hopener : ∀ text, Begins shape ends text → opener (text.takeWhile isWord) :=
    fun _ => hphrase.opener_of_begins
  have hnone : ¬ Begins shape ends (value ++ out) := hnone out hout
  cases taken with
  | nil => cases htaken
  | cons c taken =>
      cases value with
      | nil => cases hvalue
      | cons d value =>
          have hboth : ((d :: value).getLast?.or before).any isWord =
              ((c :: taken).getLast?.or before).any isWord :=
            (any_last_or hlast' before).trans (any_last_or hlast before).symm
          rw [List.head?_cons, List.tail_cons] at hlacks hlacks'
          rw [List.cons_append] at hnone
          refine ⟨?_, ?_⟩
          · rw [last_cons, List.cons_append, Stands.cons_iff,
              Stands.append_iff hopener hlacks fun _ => hrest]
          · rw [← Stands.congr hboth, last_cons, List.cons_append, Stands.cons_iff,
              Stands.append_iff hopener hlacks' fun _ => hout]
            exact or_iff_right fun hfound => hnone hfound.2

-- A phrase of the outcome stood in the text.
theorem stands_of_replaceFrom (hr : StandAlone recognise relation)
    (hrespects : ∀ taken value, relation taken value →
      Respects opener first (Begins shape ends) taken value)
    (hphrase : IsPhrase opener first shape ends) (before : Option Char) (text : List Char) :
    Stands (Begins shape ends) before (replaceFrom recognise before 0 text) →
      Stands (Begins shape ends) before text := by
  have hopens := hr.opens hrespects
  refine scan_induction hr.turns (motive := fun before text =>
    Stands (Begins shape ends) before (replaceFrom recognise before 0 text) →
      Stands (Begins shape ends) before text) ?_ ?_ ?_ before text
  · intro before
    exact id
  · intro before c rest hnone ih
    rw [replaceFrom_keep hnone, Stands.cons_iff, Stands.cons_iff,
      hphrase.begins_replaceFrom_iff hopens]
    exact Or.imp_right ih
  · intro before taken rest value hne hrelation hhit ih hstands
    obtain ⟨-, hlast, hrest⟩ := hr.ends hhit
    have hout := (hopens.head?_replaceFrom (taken.getLast?.or before) rest).1.trans hrest
    obtain ⟨-, hvalue⟩ :=
      (hrespects _ _ hrelation).stands_iff hphrase hlast hrest hout before
    rw [replaceFrom_hit hne hhit] at hstands
    exact (ih (hvalue.mp hstands)).of_rest

-- A phrase of the text stands in the outcome, or it stands where a hit is replaced.
theorem stands_replaceFrom (hr : StandAlone recognise relation)
    (hrespects : ∀ taken value, relation taken value →
      Respects opener first (Begins shape ends) taken value)
    (hphrase : IsPhrase opener first shape ends) {proper : Place → Prop}
    (hproper : ∀ place : Place, relation place.taken place.value →
      place.rest.head?.any isWord = false → Begins shape ends (place.taken ++ place.rest) →
        ¬ proper place) (start text : List Char) :
    Stands (Begins shape ends) start.getLast? text →
      (∃ place ∈ placesFrom recognise start 0 text, ¬ proper place) ∨
        (∃ before text, before.any isWord = false ∧ Begins shape ends text ∧
          recognise before text = none) ∧
        Stands (Begins shape ends) start.getLast?
          (replaceFrom recognise start.getLast? 0 text) := by
  have hopens := hr.opens hrespects
  refine scan_induction_from hr.turns (motive := fun start text =>
    Stands (Begins shape ends) start.getLast? text →
      (∃ place ∈ placesFrom recognise start 0 text, ¬ proper place) ∨
        (∃ before text, before.any isWord = false ∧ Begins shape ends text ∧
          recognise before text = none) ∧
        Stands (Begins shape ends) start.getLast?
          (replaceFrom recognise start.getLast? 0 text)) ?_ ?_ ?_ start text
  · rintro start ⟨first, tail, heq, -, part, rest, rfl, hshape, -⟩
    simp only [List.nil_eq, List.append_eq_nil_iff] at heq
    exact absurd heq.2.1 (hphrase.opens part hshape).1
  · intro start c rest hnone ih hstands
    rw [placesFrom_keep hnone, replaceFrom_keep hnone, Stands.cons_iff,
      hphrase.begins_replaceFrom_iff hopens]
    have hlast : (start ++ [c]).getLast? = some c := by simp
    rw [hlast] at ih
    rcases Stands.cons_iff.mp hstands with hfound | hlater
    · exact .inr ⟨⟨_, _, hfound.1, hfound.2, hnone⟩, .inl hfound⟩
    · exact (ih hlater).imp_right fun h => ⟨h.1, .inr h.2⟩
  · intro start taken rest value hne hrelation hhit ih hstands
    obtain ⟨-, hlast, hrest⟩ := hr.ends hhit
    have hout :=
      (hopens.head?_replaceFrom (taken.getLast?.or start.getLast?) rest).1.trans hrest
    obtain ⟨htaken, hvalue⟩ :=
      (hrespects _ _ hrelation).stands_iff hphrase hlast hrest hout start.getLast?
    rw [placesFrom_hit hne hhit, replaceFrom_hit hne hhit]
    rw [List.getLast?_append] at ih
    rcases htaken.mp hstands with hfound | hlater
    · exact .inl ⟨_, List.mem_cons_self, hproper _ hrelation hrest hfound.2⟩
    · rcases ih hlater with ⟨place, hplace, hbad⟩ | ⟨hkept, hlater⟩
      · exact .inl ⟨place, List.mem_cons_of_mem _ hplace, hbad⟩
      · exact .inr ⟨hkept, hvalue.mpr hlater⟩

variable {proper : Place → Prop}

theorem StandAlone.keeps (hr : StandAlone recognise relation)
    (hrespects : ∀ taken value, relation taken value →
      Respects opener first (Begins shape ends) taken value)
    (hphrase : IsPhrase opener first shape ends)
    (hproper : ∀ place : Place, relation place.taken place.value →
      place.rest.head?.any isWord = false → Begins shape ends (place.taken ++ place.rest) →
        ¬ proper place) : Keeps proper recognise (Begins shape ends) := fun text =>
  ⟨stands_of_replaceFrom hr hrespects hphrase none text, fun hstands =>
    (stands_replaceFrom hr hrespects hphrase hproper [] text hstands).imp_right And.right⟩

-- Where every phrase is found, one of the places of the hits is that of a phrase.
theorem StandAlone.exists_place (hr : StandAlone recognise relation)
    (hrespects : ∀ taken value, relation taken value →
      Respects opener first (Begins shape ends) taken value)
    (hphrase : IsPhrase opener first shape ends)
    (hproper : ∀ place : Place, relation place.taken place.value →
      place.rest.head?.any isWord = false → Begins shape ends (place.taken ++ place.rest) →
        ¬ proper place)
    (hfound : ∀ before text, before.any isWord = false → Begins shape ends text →
      recognise before text ≠ none) (hstands : Stands (Begins shape ends) none text) :
    ∃ place ∈ places recognise text, ¬ proper place := by
  refine (stands_replaceFrom hr hrespects hphrase hproper [] text hstands).resolve_right ?_
  rintro ⟨⟨before, later, hbefore, hbegins, hnone⟩, -⟩
  exact hfound before later hbefore hbegins hnone

end Respects

end TimePanel.Text
