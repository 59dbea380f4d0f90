import Mathlib.Data.List.TakeDrop
import TimePanel.Proofs.Text.Weight

/-! Runs of characters of one kind, and what replacements leave of a word that no hit begins in. -/

namespace TimePanel.Text

variable {recognise : Recogniser} {before : Option Char} {mark : Char} {p : Char → Bool}
  {text word run rest start tail out : List Char}

theorem any_head?_append (h : run ≠ []) : (run ++ rest).head?.any p = run.head?.any p := by
  obtain ⟨c, run, rfl⟩ := List.exists_cons_of_ne_nil h
  rfl

theorem any_head?_of_forall (hne : run ≠ []) (h : ∀ c ∈ run, p c = true) :
    run.head?.any p = true := by
  obtain ⟨c, run, rfl⟩ := List.exists_cons_of_ne_nil hne
  exact h c List.mem_cons_self

theorem any_head?_eq_false (h : ∀ c ∈ run, p c = false) : run.head?.any p = false := by
  cases run with
  | nil => rfl
  | cons c run => exact h c List.mem_cons_self

theorem takeWhile_run (hrun : ∀ c ∈ run, p c = true) (hrest : rest.head?.any p = false) :
    (run ++ rest).takeWhile p = run := by
  rw [List.takeWhile_append_of_pos hrun]
  cases rest with
  | nil => simp
  | cons c rest => simpa [List.takeWhile_cons] using hrest

theorem span_run (hrun : ∀ c ∈ run, p c = true) (hrest : rest.head?.any p = false) :
    (run ++ rest).span p = (run, rest) := by
  have hdrop : (run ++ rest).dropWhile p = rest := by
    have hsplit := List.takeWhile_append_dropWhile (p := p) (l := run ++ rest)
    rw [takeWhile_run hrun hrest] at hsplit
    exact List.append_cancel_left hsplit
  rw [List.span_eq_takeWhile_dropWhile, takeWhile_run hrun hrest, hdrop]

theorem any_head?_dropWhile (p : Char → Bool) (text : List Char) :
    (text.dropWhile p).head?.any p = false := by
  have hstop := List.head?_dropWhile_not p text
  cases hhead : (text.dropWhile p).head? with
  | none => rfl
  | some c => simpa [hhead] using hstop

theorem Ranges.exists_of_has {ranges : Ranges} {code : Nat} (h : Ranges.has ranges code = true) :
    ∃ range ∈ ranges, range.1 ≤ code ∧ code ≤ range.2 := by
  induction ranges with
  | nil => cases h
  | cons range rest ih =>
      simp only [Ranges.has] at h
      split at h
      · obtain ⟨found, hmem, hcode⟩ := ih h
        exact ⟨found, List.mem_cons_of_mem _ hmem, hcode⟩
      · next hlast =>
        exact ⟨range, List.mem_cons_self, by simpa using h, by omega⟩

theorem isWord_of_isBlank {c : Char} (h : isBlank c = true) : isWord c = false := by
  have htable : ∀ range ∈ blankRanges, ∀ offset < range.2 + 1 - range.1,
      isWord (Char.ofNat (range.1 + offset)) = false := by
    decide +kernel
  obtain ⟨range, hrange, hfirst, hlast⟩ := Ranges.exists_of_has h
  have hword := htable range hrange (c.toNat - range.1) (by omega)
  rwa [Nat.add_sub_cancel' hfirst, Char.ofNat_toNat] at hword

theorem any_isBlank_of_isWord {text : List Char} (h : text.head?.any isWord = true) :
    text.head?.any isBlank = false := by
  cases text with
  | nil => rfl
  | cons c text =>
      have hword : isWord c = true := h
      rw [← Bool.not_eq_true]
      intro hblank
      rw [isWord_of_isBlank hblank] at hword
      cases hword

-- No word goes on where blanks follow.
theorem IsGap.head_append {gap : List Char} (h : IsGap gap) {rest : List Char} :
    (gap ++ rest).head?.any isWord = false := by
  rw [any_head?_append h.1]
  exact any_head?_eq_false fun c hc => isWord_of_isBlank (h.2 c hc)

-- A text begins with one run of a kind only.
theorem run_inj {other more : List Char} (heq : run ++ rest = other ++ more)
    (hrun : ∀ c ∈ run, p c = true) (hrest : rest.head?.any p = false)
    (hother : ∀ c ∈ other, p c = true) (hmore : more.head?.any p = false) :
    run = other ∧ rest = more := by
  have hsame : run = other := by
    rw [← takeWhile_run hrun hrest, heq, takeWhile_run hother hmore]
  subst hsame
  exact ⟨rfl, List.append_cancel_left heq⟩

-- The character before what follows a text.
theorem last_cons (c : Char) (text : List Char) (before : Option Char) :
    (c :: text).getLast?.or before = text.getLast?.or (some c) := by
  rw [List.getLast?_cons]
  cases text.getLast? <;> rfl

theorem last_append (text tail : List Char) (before : Option Char) :
    (text ++ tail).getLast?.or before = tail.getLast?.or (text.getLast?.or before) := by
  rw [List.getLast?_append, Option.or_assoc]

theorem last_append_of_ne_nil (h : tail ≠ []) (text : List Char) (before : Option Char) :
    (text ++ tail).getLast?.or before = tail.getLast? := by
  obtain ⟨c, hlast⟩ : ∃ c, tail.getLast? = some c := by
    rw [← Option.isSome_iff_exists, List.getLast?_isSome]
    exact h
  rw [last_append, hlast, Option.some_or]

-- Whether each hit leaves the first character of what it takes up as it is.
def KeepsHead (recognise : Recogniser) : Prop :=
  Turns recognise fun taken value => value.head? = taken.head?

theorem KeepsHead.head?_replaceFrom (h : KeepsHead recognise) :
    (replaceFrom recognise before 0 text).head? = text.head? := by
  refine scan_induction h (motive := fun before text =>
    (replaceFrom recognise before 0 text).head? = text.head?) ?_ ?_ ?_ before text
  · intro before
    rfl
  · intro before c rest hnone _
    rw [replaceFrom_keep hnone]
    rfl
  · intro before taken rest value hne hhead hhit _
    obtain ⟨c, taken, rfl⟩ := List.exists_cons_of_ne_nil hne
    obtain ⟨more, rfl⟩ := List.head?_eq_some_iff.mp hhead
    rw [replaceFrom_hit hne hhit]
    rfl

-- No hit begins at a character of a word that stands after `before`, whatever follows that
-- character.
def PassesOver (recognise : Recogniser) : Option Char → List Char → Prop
  | _, [] => True
  | before, c :: word =>
      (∀ after, recognise before (c :: after) = none) ∧ PassesOver recognise (some c) word

namespace PassesOver

theorem append (h : PassesOver recognise before word)
    (htail : PassesOver recognise (word.getLast?.or before) tail) :
    PassesOver recognise before (word ++ tail) := by
  induction word generalizing before with
  | nil => simpa using htail
  | cons c word ih =>
      rw [last_cons] at htail
      exact ⟨h.1, ih h.2 htail⟩

-- So the word stands at the head of the outcome exactly if it stands at the head of the text.
theorem replaceFrom_eq_append_iff (hhead : KeepsHead recognise)
    (h : PassesOver recognise before word) :
    replaceFrom recognise before 0 text = word ++ out ↔
      ∃ rest, text = word ++ rest ∧
        replaceFrom recognise (word.getLast?.or before) 0 rest = out := by
  induction word generalizing before text with
  | nil => simp
  | cons c word ih =>
      simp only [last_cons]
      constructor
      · intro heq
        have hfirst : text.head? = some c := by
          rw [← hhead.head?_replaceFrom, heq]
          rfl
        obtain ⟨after, rfl⟩ := List.head?_eq_some_iff.mp hfirst
        rw [replaceFrom_keep (h.1 after), List.cons_append] at heq
        obtain ⟨rest, rfl, hrest⟩ := (ih h.2).mp (List.cons.inj heq).2
        exact ⟨rest, rfl, hrest⟩
      · rintro ⟨rest, rfl, hrest⟩
        rw [List.cons_append, replaceFrom_keep (h.1 _), (ih h.2).mpr ⟨rest, rfl, hrest⟩]
        rfl

end PassesOver

-- A mark that hits hold nowhere but at their head, where they leave it.
def Spares (recognise : Recogniser) (mark : Char) : Prop :=
  Turns recognise fun taken value =>
    value.head? = taken.head? ∧ mark ∉ taken.tail ∧ mark ∉ value.tail

theorem Spares.keepsHead (h : Spares recognise mark) : KeepsHead recognise :=
  h.mono fun _ _ => And.left

-- Whether a mark stands in a text, with something of a kind from the mark on.
def HasMark (mark : Char) (kind : Option Char → List Char → Prop) (before : Option Char)
    (text : List Char) : Prop :=
  ∃ start rest, text = start ++ mark :: rest ∧ kind (start.getLast?.or before) (mark :: rest)

-- A part that has the mark nowhere but at its head is passed over at once.
theorem HasMark.append_iff {kind : Option Char → List Char → Prop} {part : List Char}
    (hpart : mark ∉ part.tail) :
    HasMark mark kind before (part ++ rest) ↔
      (part.head? = some mark ∧ kind before (part ++ rest)) ∨
        HasMark mark kind (part.getLast?.or before) rest := by
  constructor
  · rintro ⟨start, after, heq, hkind⟩
    rcases List.append_eq_append_iff.mp heq with ⟨more, rfl, rfl⟩ | ⟨more, rfl, hmark⟩
    · exact .inr ⟨more, after, rfl, by rwa [last_append] at hkind⟩
    · cases more with
      | nil => exact .inr ⟨[], after, hmark.symm, by simpa using hkind⟩
      | cons c more =>
          obtain ⟨rfl, -⟩ := List.cons.inj hmark
          cases start with
          | nil =>
              rw [List.nil_append] at heq
              exact .inl ⟨rfl, heq ▸ hkind⟩
          | cons d start => exact absurd (by simp) hpart
  · rintro (⟨hhead, hkind⟩ | ⟨start, after, rfl, hkind⟩)
    · obtain ⟨tail, rfl⟩ := List.head?_eq_some_iff.mp hhead
      exact ⟨[], tail ++ rest, rfl, hkind⟩
    · exact ⟨part ++ start, after, by simp, by rwa [last_append]⟩

-- Every mark of the outcome comes from one of the text, and what follows it from what follows that.
theorem Spares.hasMark_iff (h : Spares recognise mark) (ending : List Char → Prop)
    (before : Option Char) (text : List Char) :
    HasMark mark (fun _ => ending) before (replaceFrom recognise before 0 text) ↔
      HasMark mark (fun last rest => ending (replaceFrom recognise last 0 rest)) before text := by
  refine scan_induction h (motive := fun before text =>
    HasMark mark (fun _ => ending) before (replaceFrom recognise before 0 text) ↔
      HasMark mark (fun last rest => ending (replaceFrom recognise last 0 rest)) before text)
    ?_ ?_ ?_ before text
  · intro before
    simp [HasMark, replaceFrom]
  · intro before c rest hnone ih
    have hpart : mark ∉ [c].tail := List.not_mem_nil
    rw [replaceFrom_keep hnone, ← List.singleton_append, HasMark.append_iff hpart,
      ← List.singleton_append (l := rest), HasMark.append_iff hpart, List.singleton_append,
      List.singleton_append, replaceFrom_keep hnone]
    exact or_congr Iff.rfl ih
  · rintro before taken rest value hne ⟨hhead, htaken, hvalue⟩ hhit ih
    rw [replaceFrom_hit hne hhit, HasMark.append_iff hvalue, HasMark.append_iff htaken, hhead,
      replaceFrom_hit hne hhit]
    exact or_congr Iff.rfl ih

theorem Spares.mem_replaceFrom_iff (h : Spares recognise mark) :
    mark ∈ replaceFrom recognise before 0 text ↔ mark ∈ text := by
  simpa [HasMark, List.mem_iff_append] using h.hasMark_iff (fun _ => True) before text

-- Whether something of a kind stands in a text, with no word under way before it.
def Stands (kind : List Char → Prop) (before : Option Char) (text : List Char) : Prop :=
  ∃ start tail, text = start ++ tail ∧ (start.getLast?.or before).any isWord = false ∧ kind tail

namespace Stands

variable {kind : List Char → Prop} {c : Char}

theorem cons_iff : Stands kind before (c :: rest) ↔
    (before.any isWord = false ∧ kind (c :: rest)) ∨ Stands kind (some c) rest := by
  constructor
  · rintro ⟨start, tail, heq, hbefore, htail⟩
    cases start with
    | nil =>
        rw [List.nil_append] at heq
        exact .inl ⟨hbefore, heq ▸ htail⟩
    | cons d start =>
        obtain ⟨rfl, rfl⟩ := List.cons.inj heq
        rw [last_cons] at hbefore
        exact .inr ⟨start, tail, rfl, hbefore, htail⟩
  · rintro (⟨hbefore, hkind⟩ | ⟨start, tail, rfl, hbefore, htail⟩)
    · exact ⟨[], c :: rest, rfl, hbefore, hkind⟩
    · exact ⟨c :: start, tail, rfl, by rwa [last_cons], htail⟩

-- Nothing stands within a word that is under way.
theorem inside_iff (hword : ∀ c ∈ word, isWord c = true) (hbefore : before.any isWord = true) :
    Stands kind before (word ++ rest) ↔ Stands kind (word.getLast?.or before) rest := by
  induction word generalizing before with
  | nil => simp
  | cons c word ih =>
      obtain ⟨hc, hword⟩ := List.forall_mem_cons.mp hword
      rw [List.cons_append, cons_iff, hbefore, last_cons, ih hword (by simpa using hc)]
      simp

theorem word_iff (hne : word ≠ []) (hword : ∀ c ∈ word, isWord c = true) :
    Stands kind before (word ++ rest) ↔
      (before.any isWord = false ∧ kind (word ++ rest)) ∨ Stands kind word.getLast? rest := by
  obtain ⟨c, word, rfl⟩ := List.exists_cons_of_ne_nil hne
  obtain ⟨hc, hword⟩ := List.forall_mem_cons.mp hword
  rw [List.cons_append, cons_iff, inside_iff hword (by simpa using hc), ← last_cons c word none,
    Option.or_none]

-- What begins with a word does not begin among other characters.
theorem gap_iff (hkind : ∀ text, kind text → text.head?.any isWord = true)
    (hgap : ∀ c ∈ run, isWord c = false) :
    Stands kind before (run ++ rest) ↔ Stands kind (run.getLast?.or before) rest := by
  induction run generalizing before with
  | nil => simp
  | cons c gap ih =>
      obtain ⟨hc, hgap⟩ := List.forall_mem_cons.mp hgap
      have hnone : ¬ kind (c :: (gap ++ rest)) := by
        intro h
        have hfirst : isWord c = true := hkind _ h
        rw [hc] at hfirst
        cases hfirst
      rw [List.cons_append, cons_iff, last_cons, ih hgap]
      simp [hnone]

theorem gap_word_iff (hkind : ∀ text, kind text → text.head?.any isWord = true) (hrun : run ≠ [])
    (hgap : ∀ c ∈ run, isWord c = false) (hne : word ≠ []) (hword : ∀ c ∈ word, isWord c = true) :
    Stands kind before (run ++ (word ++ rest)) ↔
      kind (word ++ rest) ∨ Stands kind word.getLast? rest := by
  obtain ⟨c, hlast⟩ : ∃ c, run.getLast? = some c := by
    rw [← Option.isSome_iff_exists, List.getLast?_isSome]
    exact hrun
  have hc := hgap c (List.mem_of_getLast? hlast)
  rw [gap_iff hkind hgap, word_iff hne hword, hlast]
  simp [hc]

end Stands

end TimePanel.Text
