import TimePanel.Proofs.Text.Scan
import TimePanel.Query.Macro

/-! Where macros stand in a text, and what recognisers do when they come across one. -/

namespace TimePanel.TimeMacro

open Text

-- Whether the macro stands in a text as a whole word.
def occursIn (timeMacro : TimeMacro) (text : List Char) : Bool :=
  occurs (timeMacro.recognise []) text

-- A dollar sign, an underscore and more of a word.
theorem token_eq (timeMacro : TimeMacro) :
    ∃ tail, timeMacro.token = '$' :: '_' :: tail ∧ ∀ c ∈ '_' :: tail, isWord c = true := by
  cases timeMacro <;> exact ⟨_, rfl, List.all_eq_true.mp (by decide)⟩

theorem token_ne_nil (timeMacro : TimeMacro) : timeMacro.token ≠ [] := by
  obtain ⟨tail, h, -⟩ := timeMacro.token_eq
  simp [h]

theorem isWord_last (timeMacro : TimeMacro) (before : Option Char) :
    (timeMacro.token.getLast?.or before).any isWord = true := by
  obtain ⟨tail, heq, hword⟩ := timeMacro.token_eq
  rw [heq, List.getLast?_cons_cons, List.getLast?_eq_some_getLast (by simp), Option.some_or]
  exact hword _ (List.getLast_mem _)

theorem ne_dollar_of_isWord {c : Char} (h : isWord c = true) : c ≠ '$' := by
  rintro rfl
  exact absurd h (by decide)

-- No macro is the beginning of another one.
theorem eq_of_token_append {a b : TimeMacro} {x y : List Char}
    (h : a.token ++ x = b.token ++ y) : a = b := by
  have hbegins : a.token <+: b.token ∨ b.token <+: a.token :=
    List.prefix_or_prefix_of_prefix ⟨x, rfl⟩ ⟨y, h.symm⟩
  cases a <;> cases b <;> first | rfl | exact absurd hbegins (by decide)

theorem recognise_eq_some_iff {timeMacro : TimeMacro} {value : List Char} {before : Option Char}
    {text : List Char} {hit : Hit} :
    timeMacro.recognise value before text = some hit ↔
      ∃ rest, text = timeMacro.token ++ rest ∧ rest.head?.any isWord = false ∧
        hit = ⟨timeMacro.token.length, value⟩ := by
  unfold recognise
  constructor
  · intro h
    obtain ⟨rest, hrest, hhit⟩ := Option.bind_eq_some_iff.mp h
    obtain rfl := after?_eq_some_iff.mp hrest
    split at hhit
    · cases hhit
    · next hw => exact ⟨rest, rfl, by simpa using hw, (Option.some.inj hhit).symm⟩
  · rintro ⟨rest, rfl, hw, rfl⟩
    simp [hw]

theorem recognise_token_append {timeMacro : TimeMacro} (value : List Char) (before : Option Char)
    {rest : List Char} (h : rest.head?.any isWord = false) :
    timeMacro.recognise value before (timeMacro.token ++ rest) =
      some ⟨timeMacro.token.length, value⟩ :=
  recognise_eq_some_iff.mpr ⟨rest, rfl, h, rfl⟩

theorem recognise_of_ne_dollar {timeMacro : TimeMacro} {value : List Char} {before : Option Char}
    {c : Char} {text : List Char} (h : c ≠ '$') :
    timeMacro.recognise value before (c :: text) = none := by
  rw [Option.eq_none_iff_forall_ne_some]
  intro hit hhit
  obtain ⟨rest, heq, -⟩ := recognise_eq_some_iff.mp hhit
  obtain ⟨tail, htoken, -⟩ := timeMacro.token_eq
  rw [htoken] at heq
  exact h (List.cons.inj heq).1

-- A recogniser that only begins at dollar signs passes over the rest of a macro.
theorem passes_of_starts {recognise : Recogniser}
    (hstarts : ∀ before c text, c ≠ '$' → recognise before (c :: text) = none)
    {word : List Char} (hword : ∀ c ∈ word, isWord c = true) (before : Option Char) :
    Passes recognise before word := by
  induction word generalizing before with
  | nil => trivial
  | cons c word ih =>
      refine ⟨fun after => hstarts _ _ _ (ne_dollar_of_isWord (hword c (by simp))), ?_⟩
      exact ih (fun d hd => hword d (by simp [hd])) _

theorem passes_token {recognise : Recogniser} {timeMacro : TimeMacro} {before : Option Char}
    (hstarts : ∀ before c text, c ≠ '$' → recognise before (c :: text) = none)
    (htoken : ∀ after, recognise before (timeMacro.token ++ after) = none) :
    Passes recognise before timeMacro.token := by
  obtain ⟨tail, heq, hword⟩ := timeMacro.token_eq
  rw [heq] at htoken ⊢
  exact ⟨htoken, passes_of_starts hstarts hword _⟩

theorem recognise_token_of_ne {a b : TimeMacro} (hne : a ≠ b) (value : List Char)
    (before : Option Char) (rest : List Char) :
    a.recognise value before (b.token ++ rest) = none := by
  rw [Option.eq_none_iff_forall_ne_some]
  intro hit hhit
  obtain ⟨tail, heq, -⟩ := recognise_eq_some_iff.mp hhit
  exact hne (eq_of_token_append heq).symm

theorem recognise_passes {a b : TimeMacro} (hne : a ≠ b) (value : List Char)
    (before : Option Char) : Passes (a.recognise value) before b.token :=
  passes_token (fun _ _ _ => recognise_of_ne_dollar) (recognise_token_of_ne hne value before)

theorem recognise_endsBefore (timeMacro : TimeMacro) (value : List Char) :
    EndsBefore (timeMacro.recognise value) '$' := by
  intro before text hit hhit hmem
  obtain ⟨rest, rfl, -, rfl⟩ := recognise_eq_some_iff.mp hhit
  obtain ⟨tail, heq, hword⟩ := timeMacro.token_eq
  rw [List.take_left, heq, List.tail_cons] at hmem
  exact ne_dollar_of_isWord (hword _ hmem) rfl

-- A recogniser whose hits stay clear of macros: they take up no dollar sign, and they do not begin
-- inside a macro or directly after it.
structure StaysClear (recognise : Recogniser) : Prop where
  takesSome : ∀ {before text hit}, recognise before text = some hit → 0 < hit.length
  takesNoDollar : ∀ {before text hit}, recognise before text = some hit →
    '$' ∉ text.take hit.length
  notAfterWord : ∀ {c text}, isWord c = true → recognise (some c) text = none
  notAfterDollar : ∀ {text}, recognise (some '$') ('_' :: text) = none

namespace StaysClear

variable {recognise : Recogniser}

theorem at_dollar (h : StaysClear recognise) (before : Option Char) (text : List Char) :
    recognise before ('$' :: text) = none := by
  rw [Option.eq_none_iff_forall_ne_some]
  intro hit hhit
  obtain ⟨n, hn⟩ := Nat.exists_eq_add_of_lt (h.takesSome hhit)
  apply h.takesNoDollar hhit
  rw [hn, List.take_succ_cons]
  exact List.mem_cons_self

theorem passes_word (h : StaysClear recognise) {c : Char} (hc : isWord c = true)
    {word : List Char} (hword : ∀ d ∈ word, isWord d = true) :
    Passes recognise (some c) word := by
  induction word generalizing c with
  | nil => trivial
  | cons d word ih =>
      exact ⟨fun after => h.notAfterWord hc,
        ih (hword d (by simp)) (fun e he => hword e (by simp [he]))⟩

theorem passes (h : StaysClear recognise) (timeMacro : TimeMacro) (before : Option Char) :
    Passes recognise before timeMacro.token := by
  obtain ⟨tail, heq, hword⟩ := timeMacro.token_eq
  rw [heq]
  exact ⟨fun after => h.at_dollar _ _, fun after => h.notAfterDollar,
    h.passes_word (hword '_' (by simp)) (fun c hc => hword c (by simp [hc]))⟩

theorem endsBefore (h : StaysClear recognise) : EndsBefore recognise '$' :=
  fun _ _ _ hhit hmem => h.takesNoDollar hhit (List.mem_of_mem_tail hmem)

end StaysClear

-- A recogniser that moreover puts in no dollar sign, nor an underscore directly after one.
structure AddsNone (recognise : Recogniser) : Prop extends StaysClear recognise where
  bringsNoDollar : ∀ {before text hit}, recognise before text = some hit → '$' ∉ hit.text
  afterDollar : ∀ {text hit}, recognise (some '$') text = some hit →
    ∃ c value, hit.text = c :: value ∧ c ≠ '_'

namespace AddsNone

variable {recognise : Recogniser}

-- Where a word goes on in the outcome, it went on in the text.
theorem prefix_of_word (h : AddsNone recognise) {c : Char} (hc : isWord c = true)
    {word text : List Char} (hword : ∀ d ∈ word, isWord d = true)
    (hbegins : word <+: replaceFrom recognise (some c) 0 text) : word <+: text := by
  induction word generalizing c text with
  | nil => exact List.nil_prefix
  | cons d word ih =>
      cases text with
      | nil => exact hbegins
      | cons e text =>
          simp only [replaceFrom, Nat.lt_irrefl, ite_false, h.notAfterWord hc,
            List.cons_prefix_cons] at hbegins ⊢
          obtain ⟨rfl, hbegins⟩ := hbegins
          exact ⟨rfl, ih (hword d List.mem_cons_self)
            (fun f hf => hword f (List.mem_cons_of_mem _ hf)) hbegins⟩

theorem prefix_of_dollar (h : AddsNone recognise) {tail text : List Char}
    (htail : ∀ c ∈ '_' :: tail, isWord c = true)
    (hbegins : '_' :: tail <+: replaceFrom recognise (some '$') 0 text) :
    '_' :: tail <+: text := by
  cases text with
  | nil => exact hbegins
  | cons c text =>
      simp only [replaceFrom, Nat.lt_irrefl, ite_false] at hbegins
      cases hhit : recognise (some '$') (c :: text) with
      | some hit =>
          obtain ⟨d, value, hvalue, hne⟩ := h.afterDollar hhit
          simp only [hhit, hvalue, List.cons_append, List.cons_prefix_cons] at hbegins
          exact absurd hbegins.1.symm hne
      | none =>
          simp only [hhit, List.cons_prefix_cons] at hbegins ⊢
          obtain ⟨rfl, hbegins⟩ := hbegins
          exact ⟨rfl, h.prefix_of_word (htail '_' List.mem_cons_self)
            (fun d hd => htail d (List.mem_cons_of_mem _ hd)) hbegins⟩

theorem infix_of_replaceFrom (h : AddsNone recognise) (timeMacro : TimeMacro)
    {before : Option Char} {skip : Nat} {text : List Char}
    (hinside : timeMacro.token <:+: replaceFrom recognise before skip text) :
    timeMacro.token <:+: text := by
  obtain ⟨tail, htoken, hword⟩ := timeMacro.token_eq
  rw [htoken] at hinside ⊢
  induction text generalizing before skip with
  | nil => exact hinside
  | cons c text ih =>
      rw [List.infix_cons_iff]
      simp only [replaceFrom] at hinside
      split at hinside
      · exact .inr (ih hinside)
      · split at hinside
        · next hit hhit =>
          exact .inr (ih (infix_of_infix_append (h.bringsNoDollar hhit) hinside))
        · next hnone =>
          rw [List.infix_cons_iff] at hinside
          rcases hinside with hbegins | hinside
          · rw [List.cons_prefix_cons] at hbegins
            obtain ⟨rfl, hbegins⟩ := hbegins
            exact .inl (List.cons_prefix_cons.mpr ⟨rfl, h.prefix_of_dollar hword hbegins⟩)
          · exact .inr (ih hinside)

-- So every macro of the outcome stood in the text.
theorem infix_of_replaceAll (h : AddsNone recognise) (timeMacro : TimeMacro) {text : List Char}
    (hinside : timeMacro.token <:+: replaceAll recognise text) : timeMacro.token <:+: text :=
  h.infix_of_replaceFrom timeMacro hinside

end AddsNone

theorem infix_replaceAll {recognise : Recogniser} (timeMacro : TimeMacro)
    (hends : EndsBefore recognise '$')
    (hpasses : ∀ before, Passes recognise before timeMacro.token) {text : List Char}
    (h : timeMacro.token <:+: text) : timeMacro.token <:+: replaceAll recognise text := by
  obtain ⟨start, after, rfl⟩ := h
  obtain ⟨tail, heq, -⟩ := timeMacro.token_eq
  rw [heq] at hpasses ⊢
  rw [List.append_assoc]
  exact infix_replaceFrom hends hpasses start after none 0 (Nat.zero_le _)

theorem standsIn_iff {timeMacro : TimeMacro} {text : List Char} :
    timeMacro.standsIn text = true ↔ timeMacro.token <:+: text := contains_iff

-- A macro that stands somewhere as a whole word stands there, and is found among all macros.
theorem exists_of_occursIn {timeMacro : TimeMacro} {text : List Char}
    (h : timeMacro.occursIn text = true) :
    ∃ start rest, text = start ++ (timeMacro.token ++ rest) ∧ rest.head?.any isWord = false := by
  obtain ⟨start, tail, rfl, -, hr⟩ := exists_of_occurs h
  obtain ⟨hit, hhit⟩ := Option.isSome_iff_exists.mp hr
  obtain ⟨rest, rfl, hw, -⟩ := recognise_eq_some_iff.mp hhit
  exact ⟨start, rest, rfl, hw⟩

theorem standsIn_of_occursIn {timeMacro : TimeMacro} {text : List Char}
    (h : timeMacro.occursIn text = true) : timeMacro.standsIn text = true := by
  obtain ⟨start, rest, rfl, -⟩ := exists_of_occursIn h
  exact standsIn_iff.mpr ⟨start, rest, by simp⟩

theorem anyIn_append (timeMacro : TimeMacro) (start : List Char) {rest : List Char}
    (h : rest.head?.any isWord = false) : anyIn (start ++ (timeMacro.token ++ rest)) = true := by
  apply occurs_of_recognise (by simp [timeMacro.token_ne_nil])
  rw [recogniseAny, List.findSome?_isSome_iff]
  exact ⟨timeMacro, by cases timeMacro <;> decide, by rw [recognise_token_append _ _ h]; rfl⟩

theorem anyIn_of_occursIn {timeMacro : TimeMacro} {text : List Char}
    (h : timeMacro.occursIn text = true) : anyIn text = true := by
  obtain ⟨start, rest, rfl, hw⟩ := exists_of_occursIn h
  exact timeMacro.anyIn_append start hw

-- Only whole words are replaced.
theorem replace_of_not_occursIn {timeMacro : TimeMacro} {text : List Char} (value : List Char)
    (h : timeMacro.occursIn text = false) : timeMacro.replace value text = text := by
  apply replaceAll_of_not_occurs
  rw [← Bool.not_eq_true]
  intro hoccurs
  obtain ⟨start, tail, rfl, hne, hr⟩ := exists_of_occurs hoccurs
  obtain ⟨hit, hhit⟩ := Option.isSome_iff_exists.mp hr
  obtain ⟨rest, rfl, hw, -⟩ := recognise_eq_some_iff.mp hhit
  have hwhole : timeMacro.occursIn (start ++ (timeMacro.token ++ rest)) = true :=
    occurs_of_recognise hne (by rw [recognise_token_append _ _ hw]; rfl)
  rw [hwhole] at h
  cases h

theorem not_occurs_of_not_anyIn {text : List Char} (h : anyIn text = false)
    (timeMacro : TimeMacro) (value : List Char) :
    occurs (timeMacro.recognise value) text = false := by
  rw [← Bool.not_eq_true]
  intro hoccurs
  obtain ⟨start, tail, rfl, -, hr⟩ := exists_of_occurs hoccurs
  obtain ⟨hit, hhit⟩ := Option.isSome_iff_exists.mp hr
  obtain ⟨rest, rfl, hw, -⟩ := recognise_eq_some_iff.mp hhit
  rw [timeMacro.anyIn_append start hw] at h
  cases h

end TimePanel.TimeMacro
