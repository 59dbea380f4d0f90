import TimePanel.Proofs.Query.Misuse

/-! What a repair leaves to repair. The passes come one after the other, each over the query once, so
a pass may put together what an earlier one takes apart, or its own hits may stand in their way. -/

namespace TimePanel

open Text

namespace Misuse

variable {before : Option Char} {text word out : List Char} {mark : Char}
  {follows : List Char → Prop}

-- A filter whose dollar sign may have blanks after it.
def IsLoose (taken : List Char) : Prop :=
  ∃ gap, taken = '$' :: (gap ++ filterToken.drop 1) ∧ ∀ c ∈ gap, isBlank c = true

def TokenThen (follows : List Char → Prop) (text : List Char) : Prop :=
  ∃ rest, text = filterToken ++ rest ∧ follows rest

def LooseThen (follows : List Char → Prop) (text : List Char) : Prop :=
  ∃ taken rest, text = taken ++ rest ∧ IsLoose taken ∧ follows rest

-- Blanks and a bracket that some later one closes.
def BeginsArgument (text : List Char) : Prop :=
  ∃ gap inside, text = gap ++ '(' :: inside ∧ (∀ c ∈ gap, isBlank c = true) ∧ ')' ∈ inside

def BeginsQuote (text : List Char) : Prop := text.head?.any isQuote = true

def BeginsSpaced (text : List Char) : Prop :=
  ∃ gap rest, text = '$' :: gap ++ (filterToken.drop 1 ++ rest) ∧ IsGap gap

-- Blanks and a name after an at sign.
def NamesTable (text : List Char) : Prop :=
  ∃ gap rest, text = gap ++ '@' :: rest ∧ IsGap gap ∧ rest.head?.any isWord = true

def BeginsReference (text : List Char) : Prop :=
  ∃ keyword rest, text = keyword ++ rest ∧ IsTableWord keyword ∧ NamesTable rest

-- A table whose name is itself a word before the name of a table.
def BeginsChain (text : List Char) : Prop :=
  ∃ keyword gap name rest, text = keyword ++ (gap ++ '@' :: (name ++ rest)) ∧
    IsTableWord keyword ∧ IsGap gap ∧ IsTableWord name ∧ NamesTable rest

theorem occurs_call_iff : occurs recogniseCall text = true ↔
    HasMark '$' (fun _ => TokenThen BeginsArgument) none text := by
  rw [finds_call.occurs_iff fun _ h => List.ne_nil_of_length_pos (Nat.zero_lt_of_lt h.length_lt)]
  constructor
  · rintro ⟨start, taken, rest, rfl, gap, inside, rfl, hgap, -⟩
    have htoken (after : List Char) :
        '$' :: (filterToken.drop 1 ++ after) = filterToken ++ after := rfl
    refine ⟨start, filterToken.drop 1 ++ (gap ++ '(' :: (inside ++ ')' :: rest)), ?_,
      gap ++ '(' :: (inside ++ ')' :: rest), rfl, gap, _, rfl, hgap, by simp⟩
    rw [htoken]
    simp
  · rintro ⟨start, rest, rfl, after, heq, gap, inside, rfl, hgap, hclosed⟩
    obtain ⟨argument, more, rfl, hargument⟩ := List.eq_append_cons_of_mem hclosed
    exact ⟨start, filterToken ++ (gap ++ '(' :: (argument ++ [')'])), more, by simp [heq],
      gap, argument, rfl, hgap, hargument⟩

theorem occurs_quotes_iff : occurs recogniseQuotes text = true ↔
    ∃ quote, isQuote quote = true ∧
      HasMark quote (fun _ rest => TokenThen BeginsQuote rest.tail) none text := by
  rw [finds_quotes.occurs_iff fun _ h => List.ne_nil_of_length_pos (Nat.zero_lt_of_lt h.length_lt)]
  constructor
  · rintro ⟨start, taken, rest, rfl, opening, closing, rfl, hopening, hclosing⟩
    exact ⟨opening, hopening, start, _, rfl, closing :: rest, by simp, hclosing⟩
  · rintro ⟨opening, hopening, start, rest, rfl, after, heq, hclosing⟩
    cases after with
    | nil => cases hclosing
    | cons closing after =>
        obtain rfl : rest = filterToken ++ closing :: after := heq
        exact ⟨start, opening :: (filterToken ++ [closing]), after, by simp,
          opening, closing, rfl, hopening, hclosing⟩

theorem occurs_blanks_iff : occurs recogniseBlanks text = true ↔
    HasMark '$' (fun _ => BeginsSpaced) none text := by
  rw [finds_blanks.occurs_iff fun _ h => List.ne_nil_of_length_pos (Nat.zero_lt_of_lt h.length_lt)]
  constructor
  · rintro ⟨start, taken, rest, rfl, gap, rfl, hgap⟩
    exact ⟨start, _, rfl, gap, rest, by simp, hgap⟩
  · rintro ⟨start, rest, rfl, gap, after, heq, hgap⟩
    exact ⟨start, '$' :: (gap ++ filterToken.drop 1), after, by simp [heq], gap, rfl, hgap⟩

theorem isSome_atSign_iff : (recogniseAtSign before text).isSome ↔
    before.any isWord = false ∧ BeginsReference text := by
  simp only [Option.isSome_iff_exists, recogniseAtSign_eq_some_iff]
  constructor
  · rintro ⟨hit, hbefore, keyword, gap, name, rest, rfl, hkeyword, hgap, hne, hname, -⟩
    refine ⟨hbefore, keyword, _, rfl, hkeyword, gap, name ++ rest, rfl, hgap, ?_⟩
    rw [any_head?_append hne]
    exact any_head?_of_forall hne hname
  · rintro ⟨hbefore, keyword, after, rfl, hkeyword, gap, table, rfl, hgap, htable⟩
    refine ⟨_, hbefore, keyword, gap, table.takeWhile isWord, table.dropWhile isWord, by simp,
      hkeyword, hgap, ?_, fun c hc => List.all_eq_true.mp List.all_takeWhile c hc,
      any_head?_dropWhile _ _, rfl⟩
    rw [Ne, takeWhile_eq_nil_iff, htable]
    decide

theorem BeginsReference.head (h : BeginsReference text) : text.head?.any isWord = true := by
  obtain ⟨keyword, rest, rfl, hkeyword, -⟩ := h
  obtain ⟨hne, hword⟩ := hkeyword.isWord
  rw [any_head?_append hne]
  exact any_head?_of_forall hne hword

theorem occurs_atSign_iff : occurs recogniseAtSign text = true ↔
    Stands BeginsReference none text := by
  constructor
  · intro h
    obtain ⟨start, rest, rfl, -, hsome⟩ := exists_of_occurs h
    obtain ⟨hstart, hrest⟩ := isSome_atSign_iff.mp hsome
    exact ⟨start, rest, rfl, by simpa using hstart, hrest⟩
  · rintro ⟨start, rest, rfl, hstart, hrest⟩
    refine occurs_of_recognise ?_ (isSome_atSign_iff.mpr ⟨by simpa using hstart, hrest⟩)
    rintro rfl
    cases hrest.head

section Blanks

theorem spares_blanks (hblank : isBlank mark = false) (hname : mark ∉ filterToken.drop 1) :
    Spares recogniseBlanks mark := by
  refine turns_blanks.mono ?_
  rintro taken value ⟨gap, rfl, hgap, rfl⟩
  refine ⟨rfl, ?_, hname⟩
  rw [List.tail_cons, List.mem_append, not_or]
  refine ⟨fun hmem => ?_, hname⟩
  rw [hgap.2 _ hmem] at hblank
  cases hblank

theorem passesOver_blanks (h : '$' ∉ word) : PassesOver recogniseBlanks before word := by
  induction word generalizing before with
  | nil => trivial
  | cons c word ih =>
      rw [List.mem_cons, not_or] at h
      refine ⟨fun after => ?_, ih h.2⟩
      rw [Option.eq_none_iff_forall_ne_some]
      intro hit hhit
      obtain ⟨taken, rest, heq, -, -, gap, rfl, -⟩ := turns_blanks _ _ _ hhit
      exact h.1 (List.cons.inj heq).1.symm

theorem keepsHead_blanks : KeepsHead recogniseBlanks :=
  have hspares : Spares recogniseBlanks '$' := spares_blanks (by decide) (by decide)
  hspares.keepsHead

theorem passesOver_blanks_name : PassesOver recogniseBlanks before (filterToken.drop 1) :=
  passesOver_blanks (by decide)

theorem replaceFrom_blanks_loose {taken : List Char} (h : IsLoose taken) (before : Option Char)
    (rest : List Char) : replaceFrom recogniseBlanks before 0 (taken ++ rest) =
      filterToken ++ replaceFrom recogniseBlanks (taken.getLast?.or before) 0 rest := by
  obtain ⟨gap, rfl, hgap⟩ := h
  cases gap with
  | nil =>
      have hnone : recogniseBlanks before ('$' :: (filterToken.drop 1 ++ rest)) = none := by
        rw [Option.eq_none_iff_forall_ne_some]
        intro hit hhit
        obtain ⟨taken, after, heq, -, -, gap, rfl, hgap, -⟩ := turns_blanks _ _ _ hhit
        obtain ⟨c, gap, rfl⟩ := List.exists_cons_of_ne_nil hgap.1
        have hc : '_' = c := (List.cons.inj (List.cons.inj heq).2).1
        exact absurd (hgap.2 c List.mem_cons_self) (hc ▸ by decide)
      rw [List.nil_append, List.cons_append, replaceFrom_keep hnone, last_cons,
        (passesOver_blanks_name.replaceFrom_eq_append_iff keepsHead_blanks).mpr ⟨rest, rfl, rfl⟩]
      rfl
  | cons c gap =>
      have hspaced : IsSpaced ('$' :: (c :: gap ++ filterToken.drop 1)) :=
        ⟨c :: gap, rfl, by simp, hgap⟩
      exact replaceFrom_hit (by simp) ((finds_blanks _ _ _).mpr ⟨_, rest, rfl, hspaced, rfl⟩)

-- A dollar sign that begins no hit stays where it is.
theorem replaceFrom_blanks_dollar (before : Option Char) (text : List Char)
    (h : (replaceFrom recogniseBlanks before 0 text).head? = some '$') :
    (∃ taken rest, text = taken ++ rest ∧ IsSpaced taken ∧
      replaceFrom recogniseBlanks before 0 text =
        filterToken ++ replaceFrom recogniseBlanks (taken.getLast?.or before) 0 rest) ∨
    ∃ rest, text = '$' :: rest ∧ recogniseBlanks before text = none ∧
      replaceFrom recogniseBlanks before 0 text =
        '$' :: replaceFrom recogniseBlanks (some '$') 0 rest := by
  rw [keepsHead_blanks.head?_replaceFrom] at h
  obtain ⟨rest, rfl⟩ := List.head?_eq_some_iff.mp h
  cases hfound : recogniseBlanks before ('$' :: rest) with
  | none => exact .inr ⟨rest, rfl, rfl, replaceFrom_keep hfound⟩
  | some hit =>
      obtain ⟨taken, after, htext, hspaced, rfl⟩ := (finds_blanks _ _ _).mp hfound
      rw [htext] at hfound ⊢
      obtain ⟨gap, rfl, hgap⟩ := hspaced
      exact .inl ⟨_, after, rfl, ⟨gap, rfl, hgap⟩, replaceFrom_hit (by simp) hfound⟩

-- A filter of the outcome was one before, with or without blanks.
theorem tokenThen_blanks_iff
    (hfollows : ∀ before text, follows (replaceFrom recogniseBlanks before 0 text) ↔ follows text) :
    TokenThen follows (replaceFrom recogniseBlanks before 0 text) ↔ LooseThen follows text := by
  constructor
  · rintro ⟨out, heq, hout⟩
    rcases replaceFrom_blanks_dollar before text (by rw [heq]; rfl) with
      ⟨taken, rest, rfl, ⟨gap, rfl, hgap⟩, hrest⟩ | ⟨rest, rfl, -, hrest⟩
    · obtain rfl := List.append_cancel_left (heq.symm.trans hrest)
      exact ⟨_, rest, rfl, ⟨gap, rfl, hgap.2⟩, (hfollows _ _).mp hout⟩
    · obtain ⟨after, rfl, rfl⟩ :=
        (passesOver_blanks_name.replaceFrom_eq_append_iff keepsHead_blanks).mp
          (show _ = filterToken.drop 1 ++ out from (List.cons.inj (hrest.symm.trans heq)).2)
      exact ⟨filterToken, after, rfl, ⟨[], rfl, by simp⟩, (hfollows _ _).mp hout⟩
  · rintro ⟨taken, rest, rfl, hloose, hrest⟩
    exact ⟨_, replaceFrom_blanks_loose hloose before rest, (hfollows _ _).mpr hrest⟩

-- No filter of the outcome has blanks after its dollar sign.
theorem not_beginsSpaced_blanks :
    ¬ BeginsSpaced (replaceFrom recogniseBlanks before 0 text) := by
  rintro ⟨gap, out, heq, hgap⟩
  rcases replaceFrom_blanks_dollar before text (by rw [heq]; rfl) with
    ⟨taken, rest, rfl, -, hrest⟩ | ⟨rest, rfl, hnone, hrest⟩
  · obtain ⟨c, gap, rfl⟩ := List.exists_cons_of_ne_nil hgap.1
    have hc : '_' = c := (List.cons.inj (List.cons.inj (hrest.symm.trans heq)).2).1
    exact absurd (hgap.2 c List.mem_cons_self) (hc ▸ by decide)
  · have hfree : '$' ∉ gap ++ filterToken.drop 1 := by
      rw [List.mem_append, not_or]
      exact ⟨hgap.mark_not_mem (by decide), by decide⟩
    have hkept := (List.cons.inj (hrest.symm.trans heq)).2
    rw [List.append_eq, ← List.append_assoc] at hkept
    obtain ⟨after, rfl, -⟩ :=
      ((passesOver_blanks hfree).replaceFrom_eq_append_iff keepsHead_blanks).mp hkept
    have hsome : (recogniseBlanks before ('$' :: (gap ++ filterToken.drop 1 ++ after))).isSome :=
      finds_blanks.isSome_iff.mpr ⟨'$' :: (gap ++ filterToken.drop 1), after, rfl, gap, rfl, hgap⟩
    rw [hnone] at hsome
    cases hsome

end Blanks

section AtSign

theorem spares_atSign (hword : isWord mark = false) (hblank : isBlank mark = false)
    (hat : mark ≠ '@') : Spares recogniseAtSign mark := by
  intro before text hit hhit
  obtain ⟨-, keyword, gap, name, rest, rfl, hkeyword, hgap, -, hname, -, rfl⟩ :=
    recogniseAtSign_eq_some_iff.mp hhit
  obtain ⟨hne, hletters⟩ := hkeyword.isWord
  have hfree : mark ∉ keyword ∧ mark ∉ gap ∧ mark ∉ name := by
    refine ⟨fun hmem => ?_, fun hmem => ?_, fun hmem => ?_⟩
    · exact absurd (hletters _ hmem) (by simp [hword])
    · exact absurd (hgap.2 _ hmem) (by simp [hblank])
    · exact absurd (hname _ hmem) (by simp [hword])
  refine ⟨keyword ++ (gap ++ '@' :: name), rest, by simp, by simp, rfl, ?_,
    fun hmem => ?_, fun hmem => ?_⟩
  · obtain ⟨c, keyword, rfl⟩ := List.exists_cons_of_ne_nil hne
    rfl
  · simpa [hfree, hat] using List.mem_of_mem_tail hmem
  · simpa [hfree] using List.mem_of_mem_tail hmem

theorem keepsHead_atSign : KeepsHead recogniseAtSign :=
  have hspares : Spares recogniseAtSign '$' := spares_atSign (by decide) (by decide) (by decide)
  hspares.keepsHead

-- No hit begins at a character that is none of words, or within a word.
theorem passesOver_atSign_gap (h : ∀ c ∈ word, isWord c = false) :
    PassesOver recogniseAtSign before word := by
  induction word generalizing before with
  | nil => trivial
  | cons c word ih =>
      obtain ⟨hc, hword⟩ := List.forall_mem_cons.mp h
      refine ⟨fun after => ?_, ih hword⟩
      rw [← Option.not_isSome_iff_eq_none, isSome_atSign_iff]
      rintro ⟨-, hreference⟩
      have hfirst : isWord c = true := hreference.head
      rw [hc] at hfirst
      cases hfirst

theorem passesOver_atSign_word (hbefore : before.any isWord = true)
    (h : ∀ c ∈ word, isWord c = true) : PassesOver recogniseAtSign before word := by
  induction word generalizing before with
  | nil => trivial
  | cons c word ih =>
      obtain ⟨hc, hword⟩ := List.forall_mem_cons.mp h
      refine ⟨fun after => ?_, ih (by simpa using hc) hword⟩
      rw [← Option.not_isSome_iff_eq_none, isSome_atSign_iff, hbefore]
      simp

theorem passesOver_atSign_name : PassesOver recogniseAtSign before (filterToken.drop 1) := by
  refine ⟨fun after => ?_, passesOver_atSign_word (by decide) (List.all_eq_true.mp (by decide))⟩
  rw [← Option.not_isSome_iff_eq_none, isSome_atSign_iff]
  rintro ⟨-, keyword, rest, heq, hkeyword, -⟩
  rcases hkeyword with h | h
  · obtain ⟨c, keyword, rfl, hkey, -⟩ := List.map_eq_cons_iff.mp h
    obtain rfl : '_' = c := (List.cons.inj heq).1
    exact absurd hkey (by decide)
  · obtain ⟨c, keyword, rfl, hkey, -⟩ := List.map_eq_cons_iff.mp h
    obtain rfl : '_' = c := (List.cons.inj heq).1
    exact absurd hkey (by decide)

theorem tokenThen_atSign_iff
    (hfollows : ∀ before text, follows (replaceFrom recogniseAtSign before 0 text) ↔ follows text) :
    TokenThen follows (replaceFrom recogniseAtSign before 0 text) ↔ TokenThen follows text := by
  have hdollar : PassesOver recogniseAtSign before ['$'] :=
    passesOver_atSign_gap (List.forall_mem_singleton.mpr (by decide))
  have htoken : PassesOver recogniseAtSign before filterToken :=
    hdollar.append passesOver_atSign_name
  constructor
  · rintro ⟨out, heq, hout⟩
    obtain ⟨rest, rfl, rfl⟩ := (htoken.replaceFrom_eq_append_iff keepsHead_atSign).mp heq
    exact ⟨rest, rfl, (hfollows _ _).mp hout⟩
  · rintro ⟨rest, rfl, hrest⟩
    exact ⟨_, (htoken.replaceFrom_eq_append_iff keepsHead_atSign).mpr ⟨rest, rfl, rfl⟩,
      (hfollows _ _).mpr hrest⟩

theorem beginsSpaced_atSign_iff :
    BeginsSpaced (replaceFrom recogniseAtSign before 0 text) ↔ BeginsSpaced text := by
  have hspaced {gap : List Char} (hgap : IsGap gap) :
      PassesOver recogniseAtSign before ('$' :: gap ++ filterToken.drop 1) := by
    refine (passesOver_atSign_gap fun c hc => ?_).append passesOver_atSign_name
    rcases List.mem_cons.mp hc with rfl | hc
    · decide
    · exact isWord_of_isBlank (hgap.2 c hc)
  constructor
  · rintro ⟨gap, out, heq, hgap⟩
    rw [← List.append_assoc] at heq
    obtain ⟨rest, rfl, -⟩ := ((hspaced hgap).replaceFrom_eq_append_iff keepsHead_atSign).mp heq
    exact ⟨gap, rest, by simp, hgap⟩
  · rintro ⟨gap, rest, rfl, hgap⟩
    rw [← List.append_assoc,
      ((hspaced hgap).replaceFrom_eq_append_iff keepsHead_atSign).mpr ⟨rest, rfl, rfl⟩]
    exact ⟨gap, _, by rw [List.append_assoc], hgap⟩

theorem namesTable_atSign_iff :
    NamesTable (replaceFrom recogniseAtSign before 0 text) ↔ NamesTable text := by
  have hgap {gap : List Char} (h : IsGap gap) : PassesOver recogniseAtSign before (gap ++ ['@']) := by
    refine passesOver_atSign_gap fun c hc => ?_
    rcases List.mem_append.mp hc with hc | hc
    · exact isWord_of_isBlank (h.2 c hc)
    · obtain rfl := List.mem_singleton.mp hc
      decide
  constructor
  · rintro ⟨gap, out, heq, h, hout⟩
    rw [List.append_cons] at heq
    obtain ⟨rest, rfl, rfl⟩ := ((hgap h).replaceFrom_eq_append_iff keepsHead_atSign).mp heq
    rw [keepsHead_atSign.head?_replaceFrom] at hout
    exact ⟨gap, rest, by simp, h, hout⟩
  · rintro ⟨gap, rest, rfl, h, hrest⟩
    rw [List.append_cons, ((hgap h).replaceFrom_eq_append_iff keepsHead_atSign).mpr ⟨rest, rfl, rfl⟩]
    exact ⟨gap, _, (List.append_cons ..).symm, h, by rwa [keepsHead_atSign.head?_replaceFrom]⟩

theorem NamesTable.head (h : NamesTable text) : text.head?.any isWord = false := by
  obtain ⟨gap, rest, rfl, hgap, -⟩ := h
  rw [any_head?_append hgap.1]
  exact any_head?_eq_false fun c hc => isWord_of_isBlank (hgap.2 c hc)

theorem beginsReference_word_iff {rest : List Char} (hword : ∀ c ∈ word, isWord c = true)
    (hrest : rest.head?.any isWord = false) :
    BeginsReference (word ++ rest) ↔ IsTableWord word ∧ NamesTable rest := by
  constructor
  · rintro ⟨keyword, after, heq, hkeyword, hafter⟩
    obtain ⟨rfl, rfl⟩ := run_inj heq hword hrest hkeyword.isWord.2 hafter.head
    exact ⟨hkeyword, hafter⟩
  · rintro ⟨hkeyword, hnames⟩
    exact ⟨word, rest, rfl, hkeyword, hnames⟩

theorem BeginsChain.reference (h : BeginsChain text) : BeginsReference text := by
  obtain ⟨keyword, gap, name, rest, rfl, hkeyword, hgap, hname, -⟩ := h
  obtain ⟨hne, hword⟩ := hname.isWord
  refine ⟨keyword, _, rfl, hkeyword, gap, name ++ rest, rfl, hgap, ?_⟩
  rw [any_head?_append hne]
  exact any_head?_of_forall hne hword

section Hit

variable {keyword gap name rest : List Char}

theorem beginsChain_iff (hkeyword : IsTableWord keyword) (hgap : IsGap gap)
    (hname : ∀ c ∈ name, isWord c = true) (hrest : rest.head?.any isWord = false) :
    BeginsChain (keyword ++ (gap ++ '@' :: (name ++ rest))) ↔
      IsTableWord name ∧ NamesTable rest := by
  have hat (table : List Char) : ('@' :: table).head?.any isBlank = false :=
    show isBlank '@' = false by decide
  constructor
  · rintro ⟨other, space, table, after, heq, hother, hspace, htable, hafter⟩
    obtain ⟨rfl, hgaps⟩ :=
      run_inj heq hkeyword.isWord.2 hgap.head_append hother.isWord.2 hspace.head_append
    obtain ⟨rfl, hnames⟩ := run_inj hgaps hgap.2 (hat _) hspace.2 (hat _)
    obtain ⟨rfl, rfl⟩ := run_inj (List.cons.inj hnames).2 hname hrest htable.isWord.2 hafter.head
    exact ⟨htable, hafter⟩
  · rintro ⟨htable, hnames⟩
    exact ⟨keyword, gap, name, rest, rfl, hkeyword, hgap, htable, hnames⟩

theorem not_beginsReference_repaired (hkeyword : IsTableWord keyword) (hgap : IsGap gap)
    (hne : name ≠ []) (hname : ∀ c ∈ name, isWord c = true) :
    ¬ BeginsReference (keyword ++ (gap ++ (name ++ rest))) := by
  rw [beginsReference_word_iff hkeyword.isWord.2 hgap.head_append]
  rintro ⟨-, space, table, heq, hspace, -⟩
  obtain ⟨c, name, rfl⟩ := List.exists_cons_of_ne_nil hne
  have hc := hname c List.mem_cons_self
  have hblank : (c :: name ++ rest).head?.any isBlank = false := by
    rw [← Bool.not_eq_true]
    intro h
    rw [isWord_of_isBlank h] at hc
    cases hc
  obtain ⟨-, hmore⟩ := run_inj heq hgap.2 hblank hspace.2 (show isBlank '@' = false by decide)
  obtain rfl := (List.cons.inj hmore).1
  exact absurd hc (by decide)

end Hit

-- References are left exactly where a chain is. Of two names that follow each other the scan takes
-- the first, and the word before the second is part of that hit.
theorem stands_atSign_iff (before : Option Char) (text : List Char) :
    Stands BeginsReference before (replaceFrom recogniseAtSign before 0 text) ↔
      Stands BeginsChain before text := by
  refine scan_induction turns_atSign (motive := fun before text =>
    Stands BeginsReference before (replaceFrom recogniseAtSign before 0 text) ↔
      Stands BeginsChain before text) ?_ ?_ ?_ before text
  · intro before
    have hnil {kind : List Char → Prop} (hkind : ¬ kind []) : ¬ Stands kind before [] := by
      rintro ⟨start, tail, heq, -, htail⟩
      obtain ⟨-, rfl⟩ := List.append_eq_nil_iff.mp heq.symm
      exact hkind htail
    have hnone : ¬ BeginsReference [] := fun h => absurd h.head (by decide)
    exact iff_of_false (hnil hnone) (hnil fun h => hnone h.reference)
  · intro before c rest hnone ih
    rw [replaceFrom_keep hnone, Stands.cons_iff, Stands.cons_iff, ih]
    refine or_congr (iff_of_false ?_ ?_) Iff.rfl
    · rintro ⟨hbefore, keyword, out, heq, hkeyword, hout⟩
      obtain ⟨hne, hword⟩ := hkeyword.isWord
      obtain ⟨d, word, rfl⟩ := List.exists_cons_of_ne_nil hne
      obtain ⟨rfl, htail⟩ := List.cons.inj heq
      obtain ⟨hc, hword⟩ := List.forall_mem_cons.mp hword
      obtain ⟨after, rfl, rfl⟩ := ((passesOver_atSign_word (by simpa using hc)
        hword).replaceFrom_eq_append_iff keepsHead_atSign).mp htail
      have hsome := isSome_atSign_iff.mpr
        ⟨hbefore, c :: word, after, rfl, hkeyword, namesTable_atSign_iff.mp hout⟩
      rw [List.cons_append, hnone] at hsome
      cases hsome
    · rintro ⟨hbefore, hchain⟩
      have hsome := isSome_atSign_iff.mpr ⟨hbefore, hchain.reference⟩
      rw [hnone] at hsome
      cases hsome
  · rintro before taken rest value - - hhit ih
    obtain ⟨hbefore, keyword, gap, name, after, heq, hkeyword, hgap, hne, hname, hafter, hsame⟩ :=
      recogniseAtSign_eq_some_iff.mp hhit
    obtain ⟨hlength, rfl⟩ := Hit.mk.inj hsame
    have htext : taken ++ rest = keyword ++ (gap ++ '@' :: name) ++ after := by simpa using heq
    obtain ⟨rfl, rfl⟩ := List.append_inj htext hlength
    have hat : ∀ c ∈ gap ++ ['@'], isWord c = false := by
      intro c hc
      rcases List.mem_append.mp hc with hc | hc
      · exact isWord_of_isBlank (hgap.2 c hc)
      · obtain rfl := List.mem_singleton.mp hc
        decide
    have hlast : (keyword ++ (gap ++ '@' :: name)).getLast?.or before = name.getLast? := by
      rw [List.append_cons, ← List.append_assoc, last_append_of_ne_nil hne]
    have hout : replaceFrom recogniseAtSign before 0 (keyword ++ (gap ++ '@' :: name) ++ rest) =
        keyword ++ (gap ++ (name ++ replaceFrom recogniseAtSign name.getLast? 0 rest)) := by
      rw [replaceFrom_hit (by simp) hhit, hlast]
      simp
    have hhead : (replaceFrom recogniseAtSign name.getLast? 0 rest).head?.any isWord = false := by
      rw [keepsHead_atSign.head?_replaceFrom, hafter]
    obtain ⟨hne', hword⟩ := hkeyword.isWord
    rw [hlast] at ih
    calc Stands BeginsReference before
          (replaceFrom recogniseAtSign before 0 (keyword ++ (gap ++ '@' :: name) ++ rest))
      _ ↔ IsTableWord name ∧ NamesTable rest ∨ Stands BeginsChain name.getLast? rest := by
          rw [hout, Stands.word_iff hne' hword,
            Stands.gap_word_iff (fun _ => BeginsReference.head) hgap.1
              (fun c hc => isWord_of_isBlank (hgap.2 c hc)) hne hname, ih,
            beginsReference_word_iff hname hhead, namesTable_atSign_iff]
          simp [not_beginsReference_repaired hkeyword hgap hne hname]
      _ ↔ Stands BeginsChain before (keyword ++ (gap ++ '@' :: name) ++ rest) := by
          have hname' : BeginsChain (name ++ rest) → IsTableWord name ∧ NamesTable rest :=
            fun h => (beginsReference_word_iff hname hafter).mp h.reference
          have htext' : keyword ++ (gap ++ '@' :: name) ++ rest =
              keyword ++ (gap ++ ['@'] ++ (name ++ rest)) := by simp
          rw [htext', Stands.word_iff hne' hword,
            Stands.gap_word_iff (fun _ h => h.reference.head) (by simp) hat hne hname,
            ← List.append_cons, beginsChain_iff hkeyword hgap hname hafter, hbefore]
          tauto

end AtSign

-- What follows a filter is what followed it before.
theorem beginsArgument_replaceFrom_iff {recognise : Recogniser} (hclosing : Spares recognise ')')
    (hpasses : ∀ before gap, (∀ c ∈ gap, isBlank c = true) →
      PassesOver recognise before (gap ++ ['('])) (before : Option Char) (text : List Char) :
    BeginsArgument (replaceFrom recognise before 0 text) ↔ BeginsArgument text := by
  constructor
  · rintro ⟨gap, out, heq, hgap, hout⟩
    rw [List.append_cons] at heq
    obtain ⟨rest, rfl, rfl⟩ :=
      ((hpasses before gap hgap).replaceFrom_eq_append_iff hclosing.keepsHead).mp heq
    exact ⟨gap, rest, (List.append_cons ..).symm, hgap, hclosing.mem_replaceFrom_iff.mp hout⟩
  · rintro ⟨gap, inside, rfl, hgap, hinside⟩
    rw [List.append_cons,
      ((hpasses before gap hgap).replaceFrom_eq_append_iff hclosing.keepsHead).mpr
        ⟨inside, rfl, rfl⟩]
    exact ⟨gap, _, (List.append_cons ..).symm, hgap, hclosing.mem_replaceFrom_iff.mpr hinside⟩

theorem beginsArgument_blanks_iff (before : Option Char) (text : List Char) :
    BeginsArgument (replaceFrom recogniseBlanks before 0 text) ↔ BeginsArgument text := by
  refine beginsArgument_replaceFrom_iff (spares_blanks (by decide) (by decide)) ?_ before text
  intro before gap hgap
  refine passesOver_blanks fun hmem => ?_
  rcases List.mem_append.mp hmem with hmem | hmem
  · exact absurd (hgap _ hmem) (by decide)
  · exact absurd hmem (by decide)

theorem beginsArgument_atSign_iff (before : Option Char) (text : List Char) :
    BeginsArgument (replaceFrom recogniseAtSign before 0 text) ↔ BeginsArgument text := by
  refine beginsArgument_replaceFrom_iff (spares_atSign (by decide) (by decide) (by decide)) ?_
    before text
  intro before gap hgap
  refine passesOver_atSign_gap fun c hc => ?_
  rcases List.mem_append.mp hc with hc | hc
  · exact isWord_of_isBlank (hgap c hc)
  · obtain rfl := List.mem_singleton.mp hc
    decide

section Passes

variable {recognise : Recogniser} {kind : List Char → Prop}

theorem occurs_call_replaceAll (hspares : Spares recognise '$')
    (htoken : ∀ before text,
      TokenThen BeginsArgument (replaceFrom recognise before 0 text) ↔ kind text) :
    occurs recogniseCall (replaceAll recognise text) = true ↔
      HasMark '$' (fun _ => kind) none text := by
  rw [occurs_call_iff, replaceAll, hspares.hasMark_iff]
  simp only [HasMark, htoken]

theorem occurs_quotes_replaceAll (hspares : ∀ quote, isQuote quote = true → Spares recognise quote)
    (hpasses : ∀ quote, isQuote quote = true → ∀ before, PassesOver recognise before [quote])
    (htoken : ∀ before text,
      TokenThen BeginsQuote (replaceFrom recognise before 0 text) ↔ kind text) :
    occurs recogniseQuotes (replaceAll recognise text) = true ↔
      ∃ quote, isQuote quote = true ∧ HasMark quote (fun _ rest => kind rest.tail) none text := by
  rw [occurs_quotes_iff]
  refine exists_congr fun quote => and_congr_right fun hquote => ?_
  rw [replaceAll, (hspares quote hquote).hasMark_iff fun rest => TokenThen BeginsQuote rest.tail]
  refine exists_congr fun start => exists_congr fun rest => and_congr_right fun _ => ?_
  dsimp only
  rw [replaceFrom_keep ((hpasses quote hquote _).1 rest), List.tail_cons, htoken, List.tail_cons]

end Passes

theorem isBlank_of_isQuote {quote : Char} (h : isQuote quote = true) :
    isWord quote = false ∧ isBlank quote = false ∧ quote ≠ '@' ∧ quote ≠ '$' ∧
      quote ∉ filterToken.drop 1 := by
  have hquote : quote = '"' ∨ quote = '\'' := by simpa [isQuote] using h
  rcases hquote with rfl | rfl <;> decide

theorem beginsQuote_replaceFrom_iff {recognise : Recogniser} (hhead : KeepsHead recognise)
    (before : Option Char) (text : List Char) :
    BeginsQuote (replaceFrom recognise before 0 text) ↔ BeginsQuote text := by
  rw [BeginsQuote, hhead.head?_replaceFrom, BeginsQuote]

-- At signs have no part in what other misuses look like.
theorem occurs_call_atSign : occurs recogniseCall (Misuse.atSign.repair text) = true ↔
    occurs recogniseCall text = true :=
  (occurs_call_replaceAll (spares_atSign (by decide) (by decide) (by decide))
    fun _ _ => tokenThen_atSign_iff beginsArgument_atSign_iff).trans occurs_call_iff.symm

theorem occurs_quotes_atSign : occurs recogniseQuotes (Misuse.atSign.repair text) = true ↔
    occurs recogniseQuotes text = true := by
  refine (occurs_quotes_replaceAll (fun quote hquote => ?_) (fun quote hquote before => ?_)
    fun _ _ => tokenThen_atSign_iff (beginsQuote_replaceFrom_iff keepsHead_atSign)).trans
      occurs_quotes_iff.symm
  · obtain ⟨hword, hblank, hat, -⟩ := isBlank_of_isQuote hquote
    exact spares_atSign hword hblank hat
  · exact passesOver_atSign_gap (by simpa using (isBlank_of_isQuote hquote).1)

theorem occurs_blanks_atSign : occurs recogniseBlanks (Misuse.atSign.repair text) = true ↔
    occurs recogniseBlanks text = true := by
  have hspares : Spares recogniseAtSign '$' := spares_atSign (by decide) (by decide) (by decide)
  rw [occurs_blanks_iff, Misuse.repair, Misuse.recognise, replaceAll, hspares.hasMark_iff,
    occurs_blanks_iff]
  simp only [HasMark, beginsSpaced_atSign_iff]

theorem occurs_call_blanks : occurs recogniseCall (Misuse.blanks.repair text) = true ↔
    HasMark '$' (fun _ => LooseThen BeginsArgument) none text :=
  occurs_call_replaceAll (spares_blanks (by decide) (by decide))
    fun _ _ => tokenThen_blanks_iff beginsArgument_blanks_iff

theorem occurs_quotes_blanks : occurs recogniseQuotes (Misuse.blanks.repair text) = true ↔
    ∃ quote, isQuote quote = true ∧
      HasMark quote (fun _ rest => LooseThen BeginsQuote rest.tail) none text := by
  refine occurs_quotes_replaceAll (fun quote hquote => ?_) (fun quote hquote before => ?_)
    fun _ _ => tokenThen_blanks_iff (beginsQuote_replaceFrom_iff keepsHead_blanks)
  · obtain ⟨-, hblank, -, -, hname⟩ := isBlank_of_isQuote hquote
    exact spares_blanks hblank hname
  · exact passesOver_blanks (by simpa using (isBlank_of_isQuote hquote).2.2.2.1.symm)

theorem not_occurs_blanks_blanks : ¬ occurs recogniseBlanks (Misuse.blanks.repair text) = true := by
  have hspares : Spares recogniseBlanks '$' := spares_blanks (by decide) (by decide)
  rw [occurs_blanks_iff, Misuse.repair, Misuse.recognise, replaceAll, hspares.hasMark_iff]
  rintro ⟨start, rest, -, hspaced⟩
  exact not_beginsSpaced_blanks hspaced

theorem occurs_atSign_atSign : occurs recogniseAtSign (Misuse.atSign.repair text) = true ↔
    Stands BeginsChain none text :=
  occurs_atSign_iff.trans (stands_atSign_iff none text)

end Misuse

namespace Sanitizer

open Misuse

-- The query with its calls and quotes repaired, before the blanks are.
def unquoted (query : List Char) : List Char := Misuse.quotes.repair (Misuse.call.repair query)

-- The combinations that one repair does not get to the bottom of.
inductive IsTangled (query : List Char) : Prop
  -- A call whose filter has blanks or stands in quotes, or which another argument follows.
  | call (h : HasMark '$' (fun _ => LooseThen BeginsArgument) none (unquoted query))
  -- Quotes around a filter with blanks, or around quotes.
  | quotes (quote : Char) (hquote : isQuote quote = true)
      (h : HasMark quote (fun _ rest => LooseThen BeginsQuote rest.tail) none (unquoted query))
  -- A name with an at sign that introduces another one.
  | atSign (h : Stands BeginsChain none (repairFilter query))

theorem isTangled_iff {query : List Char} : IsTangled query ↔ problems (repair query) ≠ [] := by
  have hfilter : repairFilter query = Misuse.blanks.repair (unquoted query) := rfl
  have hproblems : problems (repair query) ≠ [] ↔
      ∃ misuse : Misuse, occurs misuse.recognise (repair query) = true := by
    have hall : ∀ misuse : Misuse, misuse ∈ Misuse.all := by
      intro misuse
      cases misuse <;> decide
    rw [problems_ne_nil_iff]
    simp [hall]
  rw [hproblems]
  constructor
  · rintro (h | ⟨quote, hquote, h⟩ | h)
    · exact ⟨.call, occurs_call_atSign.mpr (occurs_call_blanks.mpr h)⟩
    · exact ⟨.quotes, occurs_quotes_atSign.mpr (occurs_quotes_blanks.mpr ⟨quote, hquote, h⟩)⟩
    · exact ⟨.atSign, occurs_atSign_atSign.mpr h⟩
  · rintro ⟨misuse, h⟩
    cases misuse with
    | call => exact .call (occurs_call_blanks.mp (occurs_call_atSign.mp h))
    | quotes =>
        obtain ⟨quote, hquote, hmark⟩ := occurs_quotes_blanks.mp (occurs_quotes_atSign.mp h)
        exact .quotes quote hquote hmark
    | blanks => exact absurd (occurs_blanks_atSign.mp h) not_occurs_blanks_blanks
    | atSign => exact .atSign (occurs_atSign_atSign.mp h)

theorem repair_eq_self_iff {query : List Char} : repair query = query ↔ problems query = [] := by
  refine ⟨fun h => ?_, repair_of_problems_eq_nil⟩
  by_contra hproblems
  exact absurd (congrArg List.length h) (length_repair_lt hproblems).ne

theorem exists_runs (query : List Char) :
    ∃ runs ≤ query.length, problems (repair^[runs] query) = [] := by
  induction hlength : query.length using Nat.strongRecOn generalizing query with
  | ind length ih =>
      by_cases hproblems : problems query = []
      · exact ⟨0, Nat.zero_le _, hproblems⟩
      · have hshorter := length_repair_lt hproblems
        obtain ⟨runs, hruns, hnone⟩ := ih _ (hlength ▸ hshorter) (repair query) rfl
        exact ⟨runs + 1, by omega, hnone⟩

-- A repair leaves nothing to repair, and repairing again changes nothing, exactly if the query is
-- not tangled. Also a tangled one is repaired after some more runs.
theorem problems_repair_eq_nil_iff (query : List Char) :
    (problems (repair query) = [] ↔ ¬ IsTangled query) ∧
      (repair (repair query) = repair query ↔ ¬ IsTangled query) ∧
      ∃ runs ≤ query.length, problems (repair^[runs] query) = [] := by
  have hclean : problems (repair query) = [] ↔ ¬ IsTangled query := by
    rw [isTangled_iff, not_ne_iff]
  exact ⟨hclean, repair_eq_self_iff.trans hclean, exists_runs query⟩

-- The blanks stand in the way of the call when calls are repaired, and then nothing looks for one.
theorem problems_of_spaced_call :
    repair "SELECT * FROM m WHERE $ __timeFilter(ts)".toList =
        "SELECT * FROM m WHERE $__timeFilter(ts)".toList ∧
      problems (repair "SELECT * FROM m WHERE $ __timeFilter(ts)".toList) =
        [Misuse.call.message] ∧
      repair (repair "SELECT * FROM m WHERE $ __timeFilter(ts)".toList) =
        "SELECT * FROM m WHERE $__timeFilter".toList := by
  decide +kernel

end Sanitizer

end TimePanel
