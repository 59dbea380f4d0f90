import Mathlib.Data.List.TakeWhile
import Mathlib.Data.Prod.Lex
import TimePanel.Proofs.Text.Scan

/-! What replacing does to the weight of a text. A replacement that only ever makes a text lighter
does not come back to it. -/

namespace TimePanel.Text

variable {recognise : Recogniser} {before : Option Char} {relation : List Char → List Char → Prop}

-- Whether a relation holds between what each hit takes up and what comes in its place.
def Turns (recognise : Recogniser) (relation : List Char → List Char → Prop) : Prop :=
  ∀ before text hit, recognise before text = some hit →
    ∃ taken rest, text = taken ++ rest ∧ taken ≠ [] ∧ hit.length = taken.length ∧
      relation taken hit.text

theorem Turns.mono {other : List Char → List Char → Prop} (h : Turns recognise relation)
    (hmono : ∀ taken value, relation taken value → other taken value) : Turns recognise other := by
  intro before text hit hhit
  obtain ⟨taken, rest, heq, hne, hlength, hrelation⟩ := h _ _ _ hhit
  exact ⟨taken, rest, heq, hne, hlength, hmono _ _ hrelation⟩

theorem replaceFrom_keep {c : Char} {rest : List Char} (h : recognise before (c :: rest) = none) :
    replaceFrom recognise before 0 (c :: rest) = c :: replaceFrom recognise (some c) 0 rest := by
  simp [replaceFrom, h]

theorem hitsFrom_keep {c : Char} {rest : List Char} (h : recognise before (c :: rest) = none) :
    hitsFrom recognise before 0 (c :: rest) = hitsFrom recognise (some c) 0 rest := by
  simp [hitsFrom, h]

-- A text from left to right: a character that no hit begins with, or a whole hit.
theorem scan_induction (h : Turns recognise relation) {motive : Option Char → List Char → Prop}
    (nil : ∀ before, motive before [])
    (keep : ∀ before c rest, recognise before (c :: rest) = none → motive (some c) rest →
      motive before (c :: rest))
    (hit : ∀ before taken rest value, taken ≠ [] → relation taken value →
      recognise before (taken ++ rest) = some ⟨taken.length, value⟩ →
      motive (taken.getLast?.or before) rest → motive before (taken ++ rest))
    (before : Option Char) (text : List Char) : motive before text := by
  induction hlength : text.length using Nat.strongRecOn generalizing before text with
  | ind length ih =>
      subst hlength
      cases text with
      | nil => exact nil before
      | cons c rest =>
          cases hfound : recognise before (c :: rest) with
          | none => exact keep before c rest hfound (ih _ (Nat.lt_succ_self _) _ _ rfl)
          | some found =>
              obtain ⟨taken, after, heq, hne, hcount, hrelation⟩ := h _ _ _ hfound
              have hpositive := List.length_pos_iff.mpr hne
              rw [heq] at hfound ⊢
              refine hit before taken after found.text hne hrelation ?_ (ih _ ?_ _ _ rfl)
              · rw [hfound, ← hcount]
              · rw [heq, List.length_append]
                omega

section Order

variable {α β : Type} {weight : List Char → α} {other : List Char → β}

-- Whether replacing never makes a text heavier.
def Lightens [LE α] (weight : List Char → α) (recognise : Recogniser) : Prop :=
  ∀ text, weight (replaceAll recognise text) ≤ weight text

-- Whether replacing makes every text lighter in which there is anything to replace.
def LightensAtHits [LT α] (weight : List Char → α) (recognise : Recogniser) : Prop :=
  ∀ text, occurs recognise text = true → weight (replaceAll recognise text) < weight text

variable [PartialOrder α] [PartialOrder β]

theorem LightensAtHits.lightens (h : LightensAtHits weight recognise) :
    Lightens weight recognise := by
  intro text
  cases hoccurs : occurs recognise text with
  | true => exact (h text hoccurs).le
  | false => rw [replaceAll_of_not_occurs hoccurs]

theorem LightensAtHits.not_occurs (h : LightensAtHits weight recognise) {text : List Char}
    (hweight : weight text ≤ weight (replaceAll recognise text)) :
    occurs recognise text = false := by
  rw [← Bool.not_eq_true]
  intro hoccurs
  exact absurd hweight (h text hoccurs).not_ge

-- Two weights of which the second only counts where the first is the same.
def both (weight : List Char → α) (other : List Char → β) (text : List Char) : α ×ₗ β :=
  toLex (weight text, other text)

theorem both_le_both {a b : List Char} (h : weight a ≤ weight b) (hother : other a ≤ other b) :
    both weight other a ≤ both weight other b := by
  rw [both, both, Prod.Lex.toLex_le_toLex']
  exact ⟨h, fun _ => hother⟩

theorem Lightens.both (h : Lightens weight recognise) (hother : Lightens other recognise) :
    Lightens (both weight other) recognise :=
  fun text => both_le_both (h text) (hother text)

theorem LightensAtHits.first (h : LightensAtHits weight recognise) (other : List Char → β) :
    LightensAtHits (Text.both weight other) recognise := by
  intro text hoccurs
  rw [Text.both, Text.both, Prod.Lex.toLex_lt_toLex]
  exact .inl (h text hoccurs)

theorem LightensAtHits.second (hother : LightensAtHits other recognise)
    (h : Lightens weight recognise) : LightensAtHits (Text.both weight other) recognise := by
  intro text hoccurs
  rw [Text.both, Text.both, Prod.Lex.toLex_lt_toLex']
  exact ⟨h text, fun _ => hother text hoccurs⟩

-- One pass after the other.
def replaceEach (passes : List Recogniser) (text : List Char) : List Char :=
  passes.foldl (fun text recognise => replaceAll recognise text) text

theorem replaceEach_append (first second : List Recogniser) (text : List Char) :
    replaceEach (first ++ second) text = replaceEach second (replaceEach first text) :=
  List.foldl_append

theorem replaceEach_of_not_occurs {passes : List Recogniser} {text : List Char}
    (h : ∀ recognise ∈ passes, occurs recognise text = false) : replaceEach passes text = text := by
  induction passes with
  | nil => rfl
  | cons recognise passes ih =>
      obtain ⟨hfirst, hrest⟩ := List.forall_mem_cons.mp h
      rw [replaceEach, List.foldl_cons, replaceAll_of_not_occurs hfirst]
      exact ih hrest

theorem replaceEach_le {passes : List Recogniser}
    (h : ∀ recognise ∈ passes, Lightens weight recognise) (text : List Char) :
    weight (replaceEach passes text) ≤ weight text := by
  induction passes generalizing text with
  | nil => exact le_rfl
  | cons recognise passes ih =>
      obtain ⟨hfirst, hrest⟩ := List.forall_mem_cons.mp h
      exact (ih hrest _).trans (hfirst text)

-- Where each pass makes the text lighter and it comes out as it was, no pass found anything.
theorem not_occurs_of_replaceEach_eq {passes : List Recogniser}
    (h : ∀ recognise ∈ passes, LightensAtHits weight recognise) (after : List Char → List Char)
    (hafter : ∀ text, weight (after text) ≤ weight text) {text : List Char}
    (heq : after (replaceEach passes text) = text) :
    ∀ recognise ∈ passes, occurs recognise text = false := by
  induction passes with
  | nil => simp
  | cons recognise passes ih =>
      obtain ⟨hfirst, hrest⟩ := List.forall_mem_cons.mp h
      have hlighter : weight text ≤ weight (replaceAll recognise text) := calc
        weight text = weight (after (replaceEach passes (replaceAll recognise text))) :=
          congrArg weight heq.symm
        _ ≤ weight (replaceEach passes (replaceAll recognise text)) := hafter _
        _ ≤ weight (replaceAll recognise text) :=
          replaceEach_le (fun other hmem => (hrest other hmem).lightens) _
      have hnone := hfirst.not_occurs hlighter
      rw [replaceEach, List.foldl_cons, replaceAll_of_not_occurs hnone] at heq
      exact List.forall_mem_cons.mpr ⟨hnone, ih hrest heq⟩

end Order

section Additive

variable {weight : List Char → Int}

-- Whether a text weighs as much as its parts together.
def IsAdditive (weight : List Char → Int) : Prop :=
  ∀ a b, weight (a ++ b) = weight a + weight b

theorem IsAdditive.cons (hadd : IsAdditive weight) (c : Char) (text : List Char) :
    weight (c :: text) = weight [c] + weight text := hadd [c] text

theorem weigh_replaceFrom_le (hadd : IsAdditive weight)
    (h : Turns recognise fun taken value => weight value ≤ weight taken)
    (before : Option Char) (text : List Char) :
    weight (replaceFrom recognise before 0 text) ≤ weight text := by
  refine scan_induction h (motive := fun before text =>
    weight (replaceFrom recognise before 0 text) ≤ weight text) ?_ ?_ ?_ before text
  · intro before
    exact le_rfl
  · intro before c rest hnone ih
    rw [replaceFrom_keep hnone, hadd.cons, hadd.cons c rest]
    omega
  · intro before taken rest value hne hweight hhit ih
    rw [replaceFrom_hit hne hhit, hadd, hadd]
    omega

theorem lightens_of_turns (hadd : IsAdditive weight)
    (h : Turns recognise fun taken value => weight value ≤ weight taken) :
    Lightens weight recognise := weigh_replaceFrom_le hadd h none

-- Where each hit makes the text lighter, no later one makes up for the first.
theorem lightensAtHits_of_turns (hadd : IsAdditive weight)
    (h : Turns recognise fun taken value => weight value < weight taken) :
    LightensAtHits weight recognise := by
  have hmild := h.mono fun _ _ => Int.le_of_lt
  have hall : ∀ before text, hitsFrom recognise before 0 text ≠ [] →
      weight (replaceFrom recognise before 0 text) < weight text := by
    refine scan_induction h ?_ ?_ ?_
    · intro before hhits
      exact absurd rfl hhits
    · intro before c rest hnone ih hhits
      rw [hitsFrom_keep hnone] at hhits
      have hrest := ih hhits
      rw [replaceFrom_keep hnone, hadd.cons, hadd.cons c rest]
      omega
    · intro before taken rest value hne hweight hhit _ _
      have hrest := weigh_replaceFrom_le hadd hmild (taken.getLast?.or before) rest
      rw [replaceFrom_hit hne hhit, hadd, hadd]
      omega
  intro text hoccurs
  exact hall none text (by simpa [occurs, hits] using hoccurs)

-- How many characters of a kind a text has.
def tally (p : Char → Bool) (text : List Char) : Int := text.countP p

theorem isAdditive_tally (p : Char → Bool) : IsAdditive (tally p) := by
  intro a b
  simp [tally]

theorem lightens_tally {p : Char → Bool}
    (h : Turns recognise fun taken value => value.countP p ≤ taken.countP p) :
    Lightens (tally p) recognise :=
  lightens_of_turns (isAdditive_tally p) (h.mono fun _ _ => Int.ofNat_le.mpr)

theorem lightensAtHits_tally {p : Char → Bool}
    (h : Turns recognise fun taken value => value.countP p < taken.countP p) :
    LightensAtHits (tally p) recognise :=
  lightensAtHits_of_turns (isAdditive_tally p) (h.mono fun _ _ => Int.ofNat_lt.mpr)

theorem lightensAtHits_neg_tally {p : Char → Bool}
    (h : Turns recognise fun taken value => taken.countP p < value.countP p) :
    LightensAtHits (fun text => -tally p text) recognise := by
  apply lightensAtHits_of_turns
  · intro a b
    simp only [isAdditive_tally p a b, Int.neg_add]
  · exact h.mono fun _ _ hlt => Int.neg_lt_neg (Int.ofNat_lt.mpr hlt)

end Additive

section Words

variable {word : List Char}

-- How often a word stands in a text on its own. At the start a longer word may be under way.
def countWord (word : List Char) (inside : Bool) : List Char → Nat
  | [] => 0
  | c :: rest =>
    (if !inside ∧ (c :: rest).takeWhile isWord = word then 1 else 0) +
      countWord word (isWord c) rest

theorem takeWhile_eq_nil_iff {rest : List Char} :
    rest.takeWhile isWord = [] ↔ rest.head?.any isWord = false := by
  cases rest with
  | nil => simp
  | cons c rest => simp [List.takeWhile_cons]

-- Where no word begins it does not matter whether one ends.
theorem countWord_of_head (hword : word ≠ []) {rest : List Char}
    (h : rest.head?.any isWord = false) (inside other : Bool) :
    countWord word inside rest = countWord word other rest := by
  cases rest with
  | nil => rfl
  | cons c rest =>
      simp only [countWord, takeWhile_eq_nil_iff.mpr h, hword.symm, and_false, if_false]

theorem countWord_append (hword : word ≠ []) {rest : List Char}
    (h : rest.head?.any isWord = false) (inside : Bool) (text : List Char) :
    countWord word inside (text ++ rest) =
      countWord word inside text + countWord word false rest := by
  induction text generalizing inside with
  | nil =>
      rw [List.nil_append, countWord_of_head hword h inside false, countWord, Nat.zero_add]
  | cons c text ih =>
      have hhead : (c :: text ++ rest).takeWhile isWord = (c :: text).takeWhile isWord := by
        rw [List.takeWhile_append, takeWhile_eq_nil_iff.mpr h]
        split
        · next hall =>
          rw [List.append_nil]
          exact ((List.takeWhile_prefix isWord).eq_of_length hall).symm
        · rfl
      rw [List.cons_append] at hhead ⊢
      rw [countWord, countWord, hhead, ih, Nat.add_assoc]

theorem countWord_gap (hword : word ≠ []) {gap : List Char} (hne : gap ≠ [])
    (hgap : ∀ c ∈ gap, isWord c = false) (inside : Bool) (text : List Char) :
    countWord word inside (gap ++ text) = countWord word false text := by
  induction gap generalizing inside with
  | nil => exact absurd rfl hne
  | cons c gap ih =>
      obtain ⟨hc, hrest⟩ := List.forall_mem_cons.mp hgap
      rw [List.cons_append, countWord, List.takeWhile_cons, hc]
      cases gap with
      | nil => simp [hword.symm]
      | cons d gap =>
          rw [ih (by simp) hrest]
          simp [hword.symm]

-- What stands apart is counted apart.
theorem countWord_spaced (hword : word ≠ []) {gap : List Char} (hne : gap ≠ [])
    (hgap : ∀ c ∈ gap, isWord c = false) (inside : Bool) (text rest : List Char) :
    countWord word inside (text ++ (gap ++ rest)) =
      countWord word inside text + countWord word false rest := by
  obtain ⟨c, gap, rfl⟩ := List.exists_cons_of_ne_nil hne
  rw [countWord_append hword (by simpa using hgap c), countWord_gap hword hne hgap]

theorem countWord_inside {text : List Char} (h : ∀ c ∈ text, isWord c = true) :
    countWord word true text = 0 := by
  induction text with
  | nil => rfl
  | cons c text ih =>
      obtain ⟨hc, hrest⟩ := List.forall_mem_cons.mp h
      simp [countWord, hc, ih hrest]

-- A text that is one word.
theorem countWord_self {text : List Char} (hne : text ≠ []) (h : ∀ c ∈ text, isWord c = true) :
    countWord word false text = if text = word then 1 else 0 := by
  obtain ⟨c, rest, rfl⟩ := List.exists_cons_of_ne_nil hne
  obtain ⟨hc, hrest⟩ := List.forall_mem_cons.mp h
  rw [countWord, List.takeWhile_eq_self_iff.mpr h, hc, countWord_inside hrest]
  simp

-- Hits that stand on their own: no word goes on at either end of them.
def StandAlone (recognise : Recogniser) (relation : List Char → List Char → Prop) : Prop :=
  ∀ before text hit, recognise before text = some hit →
    ∃ taken rest, text = taken ++ rest ∧ taken ≠ [] ∧ hit.length = taken.length ∧
      before.any isWord = false ∧ taken.getLast?.any isWord = true ∧
      rest.head?.any isWord = false ∧ relation taken hit.text

theorem StandAlone.mono {other : List Char → List Char → Prop} (h : StandAlone recognise relation)
    (hmono : ∀ taken value, relation taken value → other taken value) :
    StandAlone recognise other := by
  intro before text hit hhit
  obtain ⟨taken, rest, heq, hne, hlength, hbefore, hlast, hhead, hrelation⟩ := h _ _ _ hhit
  exact ⟨taken, rest, heq, hne, hlength, hbefore, hlast, hhead, hmono _ _ hrelation⟩

theorem StandAlone.turns (h : StandAlone recognise relation) : Turns recognise relation := by
  intro before text hit hhit
  obtain ⟨taken, rest, heq, hne, hlength, -, -, -, hrelation⟩ := h _ _ _ hhit
  exact ⟨taken, rest, heq, hne, hlength, hrelation⟩

theorem StandAlone.ends (h : StandAlone recognise relation) {taken rest value : List Char}
    (hhit : recognise before (taken ++ rest) = some ⟨taken.length, value⟩) :
    before.any isWord = false ∧ taken.getLast?.any isWord = true ∧
      rest.head?.any isWord = false := by
  obtain ⟨other, after, heq, -, hlength, hbefore, hlast, hhead, -⟩ := h _ _ _ hhit
  obtain ⟨rfl, rfl⟩ := List.append_inj heq hlength
  exact ⟨hbefore, hlast, hhead⟩

-- So a word that is under way is not changed.
theorem StandAlone.takeWhile_replaceFrom (h : StandAlone recognise relation)
    (before : Option Char) (text : List Char) (hbefore : before.any isWord = true) :
    (replaceFrom recognise before 0 text).takeWhile isWord = text.takeWhile isWord := by
  revert hbefore
  refine scan_induction h.turns (motive := fun before text => before.any isWord = true →
    (replaceFrom recognise before 0 text).takeWhile isWord = text.takeWhile isWord) ?_ ?_ ?_
      before text
  · intro _ _
    rfl
  · intro before c rest hnone ih _
    rw [replaceFrom_keep hnone, List.takeWhile_cons, List.takeWhile_cons]
    split
    · next hc => rw [ih (by simpa using hc)]
    · rfl
  · intro before taken rest value _ _ hhit _ hbefore
    rw [(h.ends hhit).1] at hbefore
    cases hbefore

-- The word turns up more often where each hit brings it in and none takes it away.
theorem countWord_replaceFrom (hword : word ≠ [])
    (h : StandAlone recognise fun taken value =>
      countWord word false taken = 0 ∧ 0 < countWord word false value)
    (before : Option Char) (text : List Char) :
    countWord word (before.any isWord) text ≤
        countWord word (before.any isWord) (replaceFrom recognise before 0 text) ∧
      (hitsFrom recognise before 0 text ≠ [] →
        countWord word (before.any isWord) text <
          countWord word (before.any isWord) (replaceFrom recognise before 0 text)) := by
  refine scan_induction h.turns (motive := fun before text =>
    countWord word (before.any isWord) text ≤
        countWord word (before.any isWord) (replaceFrom recognise before 0 text) ∧
      (hitsFrom recognise before 0 text ≠ [] →
        countWord word (before.any isWord) text <
          countWord word (before.any isWord) (replaceFrom recognise before 0 text)))
    ?_ ?_ ?_ before text
  · intro before
    exact ⟨le_rfl, fun hhits => absurd rfl hhits⟩
  · intro before c rest hnone ih
    have hsame : (c :: replaceFrom recognise (some c) 0 rest).takeWhile isWord =
        (c :: rest).takeWhile isWord := by
      rw [List.takeWhile_cons, List.takeWhile_cons]
      split
      · next hc => rw [h.takeWhile_replaceFrom (some c) rest (by simpa using hc)]
      · rfl
    rw [replaceFrom_keep hnone, hitsFrom_keep hnone, countWord, countWord, hsame]
    obtain ⟨hle, hlt⟩ := ih
    exact ⟨Nat.add_le_add_left hle _, fun hhits => Nat.add_lt_add_left (hlt hhits) _⟩
  · intro before taken rest value hne hcounts hhit ih
    obtain ⟨hbefore, hlast, hhead⟩ := h.ends hhit
    have hlast' : (taken.getLast?.or before).any isWord = true := by
      cases htaken : taken.getLast? with
      | none =>
          rw [htaken] at hlast
          cases hlast
      | some c => simpa [htaken] using hlast
    have hhead' :
        (replaceFrom recognise (taken.getLast?.or before) 0 rest).head?.any isWord = false := by
      rw [← takeWhile_eq_nil_iff, h.takeWhile_replaceFrom _ rest hlast']
      exact takeWhile_eq_nil_iff.mpr hhead
    have hle := ih.1
    rw [hlast', countWord_of_head hword hhead true false,
      countWord_of_head hword hhead' true false] at hle
    rw [replaceFrom_hit hne hhit, hbefore, countWord_append hword hhead,
      countWord_append hword hhead']
    omega

theorem lightensAtHits_countWord (hword : word ≠ [])
    (h : StandAlone recognise fun taken value =>
      countWord word false taken = 0 ∧ 0 < countWord word false value) :
    LightensAtHits (fun text => -(countWord word false text : Int)) recognise := by
  intro text hoccurs
  have hlt := (countWord_replaceFrom hword h none text).2 (by simpa [occurs, hits] using hoccurs)
  exact Int.neg_lt_neg (by exact_mod_cast hlt)

end Words

end TimePanel.Text
