import TimePanel.Proofs.Query.Macro

/-! Texts cut into macros and the characters between them. On such texts a scan that gives every
macro its value acts piece by piece, and so scans for one macro after the other can be joined. -/

namespace TimePanel

namespace TimeMacro

open Text

-- Whether a macro stands at the head of a text, and neither a word nor another macro goes on
-- directly after it.
def standsAlone (text : List Char) : Bool :=
  all.any fun timeMacro => (after? timeMacro.token text).any fun rest =>
    !rest.head?.any fun c => isWord c || c = '$'

-- Whether every dollar sign of a text begins a macro that stands alone.
def isDelimited : List Char → Bool
  | [] => true
  | c :: rest => (c ≠ '$' || standsAlone (c :: rest)) && isDelimited rest

theorem standsAlone_iff {text : List Char} :
    standsAlone text = true ↔ ∃ timeMacro rest, text = token timeMacro ++ rest ∧
      ∀ c, rest.head? = some c → isWord c = false ∧ c ≠ '$' := by
  have hall : ∀ timeMacro, timeMacro ∈ all := by
    intro timeMacro
    cases timeMacro <;> decide
  simp only [standsAlone, List.any_eq_true, Option.any_eq_true, after?_eq_some_iff, hall, true_and,
    Bool.not_eq_true', Option.any_eq_false, Bool.or_eq_false_iff, decide_eq_false_iff_not]

theorem isDelimited_of_append {start rest : List Char}
    (h : isDelimited (start ++ rest) = true) : isDelimited rest = true := by
  induction start with
  | nil => exact h
  | cons c start ih =>
      simp only [List.cons_append, isDelimited, Bool.and_eq_true] at h
      exact ih h.2

-- Every macro that has a value takes it, the others do not count.
def recogniseEach (values : TimeMacro → Option (List Char)) : Recogniser := fun before text =>
  all.findSome? fun timeMacro =>
    (values timeMacro).bind fun value => timeMacro.recognise value before text

-- One scan from left to right that puts the values of all macros in their places. Macros without a
-- value stay.
def substitute (values : TimeMacro → Option (List Char)) (text : List Char) : List Char :=
  replaceAll (recogniseEach values) text

-- The value for one macro alone.
def only (timeMacro : TimeMacro) (value : List Char) : TimeMacro → Option (List Char) :=
  fun other => if other = timeMacro then some value else none

-- Replacing one macro is a scan that puts in the value of that macro alone.
theorem replace_eq_substitute (timeMacro : TimeMacro) (value text : List Char) :
    timeMacro.replace value text = substitute (timeMacro.only value) text := by
  have heach : recogniseEach (timeMacro.only value) = timeMacro.recognise value := by
    funext before text
    cases timeMacro <;>
      simp only [recogniseEach, all, only, List.findSome?_cons, List.findSome?_nil, reduceCtorEq,
        if_false, if_true, Option.bind_none, Option.bind_some] <;>
      cases recognise _ value before text <;> rfl
  rw [replace, substitute, heach]

end TimeMacro

inductive Piece where
  | char (c : Char)
  | token (timeMacro : TimeMacro)
deriving DecidableEq

namespace Piece

open Text TimeMacro

def text : Piece → List Char
  | .char c => [c]
  | .token timeMacro => timeMacro.token

def textOf (pieces : List Piece) : List Char := pieces.flatMap text

-- Whether a word cannot go on with a piece.
def endsWord : Piece → Prop
  | .char c => isWord c = false
  | .token _ => False

-- Dollar signs stand in macros only, and every macro stands alone.
def Delimited : List Piece → Prop
  | [] => True
  | .char c :: rest => c ≠ '$' ∧ Delimited rest
  | .token _ :: rest => (∀ piece, rest.head? = some piece → piece.endsWord) ∧ Delimited rest

@[simp] theorem textOf_nil : textOf [] = [] := rfl

@[simp] theorem textOf_char (c : Char) (rest : List Piece) :
    textOf (.char c :: rest) = c :: textOf rest := rfl

@[simp] theorem textOf_token (timeMacro : TimeMacro) (rest : List Piece) :
    textOf (.token timeMacro :: rest) = timeMacro.token ++ textOf rest := rfl

@[simp] theorem textOf_append (a b : List Piece) : textOf (a ++ b) = textOf a ++ textOf b := by
  simp [textOf]

@[simp] theorem textOf_map_char (value : List Char) : textOf (value.map .char) = value := by
  induction value with
  | nil => rfl
  | cons c value ih => simp [ih]

theorem isWord_head {rest : List Piece}
    (h : ∀ piece, rest.head? = some piece → piece.endsWord) :
    (textOf rest).head?.any isWord = false := by
  cases rest with
  | nil => rfl
  | cons piece rest =>
      have hp := h piece rfl
      cases piece with
      | char c => simpa [endsWord] using hp
      | token timeMacro => exact hp.elim

theorem delimited_append_chars {value : List Char} (hvalue : '$' ∉ value) {rest : List Piece}
    (h : Delimited rest) : Delimited (value.map .char ++ rest) := by
  induction value with
  | nil => exact h
  | cons c value ih =>
      rw [List.mem_cons, not_or] at hvalue
      exact ⟨fun hc => hvalue.1 hc.symm, ih hvalue.2⟩

theorem delimited_of_append {start rest : List Piece} (h : Delimited (start ++ rest)) :
    Delimited rest := by
  induction start with
  | nil => exact h
  | cons piece start ih =>
      cases piece with
      | char c => exact ih h.2
      | token timeMacro => exact ih h.2

-- A macro among such pieces stands in their text as a whole word.
theorem occursIn_textOf {pieces : List Piece} (h : Delimited pieces) {timeMacro : TimeMacro}
    (hmem : .token timeMacro ∈ pieces) : timeMacro.occursIn (textOf pieces) = true := by
  obtain ⟨start, rest, rfl⟩ := List.append_of_mem hmem
  have hends := isWord_head (delimited_of_append h).1
  rw [textOf_append, textOf_token]
  apply occurs_of_recognise (by simp [timeMacro.token_ne_nil])
  rw [recognise_token_append _ _ hends]
  rfl

-- Pieces whose text begins with no dollar sign and no word begin with such a character.
theorem endsWord_head {pieces : List Piece}
    (h : ∀ c, (textOf pieces).head? = some c → isWord c = false ∧ c ≠ '$') :
    ∀ piece, pieces.head? = some piece → piece.endsWord := by
  intro piece hpiece
  obtain ⟨rest, rfl⟩ := List.head?_eq_some_iff.mp hpiece
  cases piece with
  | char c => exact (h c rfl).1
  | token timeMacro =>
      obtain ⟨tail, htoken, -⟩ := timeMacro.token_eq
      exact absurd rfl (h '$' (by simp [htoken])).2

-- A text whose macros stand alone falls into such pieces.
theorem exists_pieces {text : List Char} (h : isDelimited text = true) :
    ∃ pieces, Delimited pieces ∧ textOf pieces = text := by
  induction hlength : text.length using Nat.strongRecOn generalizing text with
  | ind length ih =>
      subst hlength
      cases text with
      | nil => exact ⟨[], trivial, rfl⟩
      | cons c rest =>
          simp only [isDelimited, Bool.and_eq_true, Bool.or_eq_true, decide_eq_true_eq] at h
          by_cases hc : c = '$'
          · obtain ⟨timeMacro, after, heq, hends⟩ :=
              standsAlone_iff.mp (h.1.resolve_left (by simp [hc]))
            obtain ⟨tail, htoken, -⟩ := timeMacro.token_eq
            have hrest : rest = '_' :: tail ++ after := by
              rw [htoken] at heq
              exact (List.cons.inj heq).2
            obtain ⟨pieces, hpieces, rfl⟩ := ih after.length (by simp [hrest]; omega)
              (isDelimited_of_append (hrest ▸ h.2)) rfl
            exact ⟨.token timeMacro :: pieces, ⟨endsWord_head hends, hpieces⟩, heq.symm⟩
          · obtain ⟨pieces, hpieces, rfl⟩ := ih _ (Nat.lt_succ_self _) h.2 rfl
            exact ⟨.char c :: pieces, ⟨hc, hpieces⟩, rfl⟩

-- The text that stands for a piece once macros have values.
def filled (values : TimeMacro → Option (List Char)) : Piece → List Piece
  | .char c => [.char c]
  | .token timeMacro =>
      match values timeMacro with
      | some value => value.map .char
      | none => [.token timeMacro]

def fill (values : TimeMacro → Option (List Char)) (pieces : List Piece) : List Piece :=
  pieces.flatMap (filled values)

section fill

variable {values : TimeMacro → Option (List Char)} {rest : List Piece}

@[simp] theorem fill_nil : fill values [] = [] := rfl

@[simp] theorem fill_char (c : Char) :
    fill values (.char c :: rest) = .char c :: fill values rest :=
  rfl

theorem fill_token_some {timeMacro : TimeMacro} {value : List Char}
    (h : values timeMacro = some value) :
    fill values (.token timeMacro :: rest) = value.map .char ++ fill values rest := by
  simp [fill, filled, h]

theorem fill_token_none {timeMacro : TimeMacro} (h : values timeMacro = none) :
    fill values (.token timeMacro :: rest) = .token timeMacro :: fill values rest := by
  simp [fill, filled, h]

theorem fill_map_char (value : List Char) :
    fill values (value.map .char ++ rest) = value.map .char ++ fill values rest := by
  simp [fill, List.flatMap_map, filled, ← List.map_eq_flatMap]

theorem fill_none (pieces : List Piece) : fill (fun _ => none) pieces = pieces := by
  induction pieces with
  | nil => rfl
  | cons piece rest ih =>
      cases piece with
      | char c => rw [fill_char, ih]
      | token timeMacro => rw [fill_token_none rfl, ih]

-- Values without dollar signs leave the macros that stay delimited.
theorem delimited_fill (hvalues : ∀ timeMacro value, values timeMacro = some value → '$' ∉ value)
    {pieces : List Piece} (h : Delimited pieces) : Delimited (fill values pieces) := by
  induction pieces with
  | nil => trivial
  | cons piece rest ih =>
      cases piece with
      | char c => exact ⟨h.1, ih h.2⟩
      | token timeMacro =>
          cases hvalue : values timeMacro with
          | some value =>
              rw [fill_token_some hvalue]
              exact delimited_append_chars (hvalues _ _ hvalue) (ih h.2)
          | none =>
              rw [fill_token_none hvalue]
              refine ⟨?_, ih h.2⟩
              intro first hfirst
              cases rest with
              | nil => cases hfirst
              | cons next rest =>
                  have hends := h.1 next rfl
                  cases next with
                  | char c =>
                      obtain rfl : Piece.char c = first := by simpa using hfirst
                      exact hends
                  | token other => exact hends.elim

theorem delimited_fill_only (timeMacro : TimeMacro) {value : List Char} (hvalue : '$' ∉ value)
    {pieces : List Piece} (h : Delimited pieces) :
    Delimited (fill (timeMacro.only value) pieces) := by
  apply delimited_fill _ h
  intro other found hfound
  rw [only] at hfound
  split at hfound
  · cases hfound
    exact hvalue
  · cases hfound

-- A macro is left over exactly if it has no value.
theorem token_mem_fill_iff {timeMacro : TimeMacro} {pieces : List Piece} :
    .token timeMacro ∈ fill values pieces ↔
      .token timeMacro ∈ pieces ∧ values timeMacro = none := by
  have hfilled (piece : Piece) : .token timeMacro ∈ filled values piece ↔
      piece = .token timeMacro ∧ values timeMacro = none := by
    cases piece with
    | char c => simp [filled]
    | token other =>
        by_cases heq : other = timeMacro
        · subst heq
          cases hvalue : values other <;> simp [filled, hvalue]
        · cases hvalue : values other <;> simp [filled, hvalue, heq, Ne.symm heq]
  simp only [fill, List.mem_flatMap, hfilled]
  constructor
  · rintro ⟨piece, hmem, rfl, hnone⟩
    exact ⟨hmem, hnone⟩
  · rintro ⟨hmem, hnone⟩
    exact ⟨_, hmem, rfl, hnone⟩

-- Filling in two steps is filling at once, where the first step has precedence.
theorem fill_fill (first second : TimeMacro → Option (List Char)) (pieces : List Piece) :
    fill second (fill first pieces) =
      fill (fun timeMacro => first timeMacro <|> second timeMacro) pieces := by
  induction pieces with
  | nil => rfl
  | cons piece rest ih =>
      cases piece with
      | char c => simp [ih]
      | token timeMacro =>
          cases hfirst : first timeMacro with
          | some value =>
              have hboth : (first timeMacro <|> second timeMacro) = some value := by simp [hfirst]
              rw [fill_token_some hfirst, fill_map_char, ih, fill_token_some hboth]
          | none =>
              rw [fill_token_none hfirst]
              cases hsecond : second timeMacro with
              | some value =>
                  have hboth : (first timeMacro <|> second timeMacro) = some value := by
                    simp [hfirst, hsecond]
                  rw [fill_token_some hsecond, ih, fill_token_some hboth]
              | none =>
                  rw [fill_token_none hsecond, ih, fill_token_none (by simp [hfirst, hsecond])]

end fill

section scan

variable {values : TimeMacro → Option (List Char)}

theorem recogniseEach_of_ne_dollar {before : Option Char} {c : Char} {text : List Char}
    (h : c ≠ '$') : recogniseEach values before (c :: text) = none := by
  rw [recogniseEach, List.findSome?_eq_none_iff]
  intro timeMacro _
  cases values timeMacro with
  | none => rfl
  | some value =>
      rw [Option.bind_some]
      exact recognise_of_ne_dollar h

-- At a macro only that macro counts.
theorem recogniseEach_token (timeMacro : TimeMacro) (before : Option Char) (rest : List Char) :
    recogniseEach values before (timeMacro.token ++ rest) =
      (values timeMacro).bind fun value =>
        timeMacro.recognise value before (timeMacro.token ++ rest) := by
  have other (other : TimeMacro) (hne : other ≠ timeMacro) :
      ((values other).bind fun value =>
        other.recognise value before (timeMacro.token ++ rest)) = none := by
    cases values other with
    | none => rfl
    | some value => exact recognise_token_of_ne hne value before rest
  cases hown : (values timeMacro).bind fun value =>
      timeMacro.recognise value before (timeMacro.token ++ rest) with
  | none =>
      rw [recogniseEach, List.findSome?_eq_none_iff]
      intro candidate _
      by_cases hne : candidate = timeMacro
      · rw [hne, hown]
      · exact other candidate hne
  | some hit =>
      cases timeMacro <;>
        simp only [recogniseEach, all, List.findSome?_cons, hown, other .filter, other .field,
          other .interval, other .start, ne_eq,
          reduceCtorEq, not_false_eq_true]

-- A scan of delimited pieces fills them.
theorem replaceFrom_textOf {pieces : List Piece} (h : Delimited pieces) (before : Option Char) :
    replaceFrom (recogniseEach values) before 0 (textOf pieces) = textOf (fill values pieces) := by
  induction pieces generalizing before with
  | nil => rfl
  | cons piece rest ih =>
      cases piece with
      | char c =>
          simp only [textOf_char, fill_char, replaceFrom, Nat.lt_irrefl, ite_false,
            recogniseEach_of_ne_dollar h.1, ih h.2]
      | token timeMacro =>
          rw [textOf_token]
          cases hvalue : values timeMacro with
          | some value =>
              have hhit : recogniseEach values before (timeMacro.token ++ textOf rest) =
                  some ⟨timeMacro.token.length, value⟩ := by
                rw [recogniseEach_token, hvalue, Option.bind_some,
                  recognise_token_append value before (isWord_head h.1)]
              rw [replaceFrom_hit timeMacro.token_ne_nil hhit, fill_token_some hvalue,
                textOf_append, textOf_map_char, ih h.2]
          | none =>
              have hpasses : Passes (recogniseEach values) before timeMacro.token := by
                apply passes_token (fun _ _ _ => recogniseEach_of_ne_dollar)
                intro after
                rw [recogniseEach_token, hvalue, Option.bind_none]
              rw [hpasses.replaceFrom_append, fill_token_none hvalue, textOf_token, ih h.2]

-- A macro stands in delimited pieces only as one of them.
theorem standsIn_textOf {pieces : List Piece} (h : Delimited pieces) {timeMacro : TimeMacro} :
    timeMacro.standsIn (textOf pieces) = true ↔ .token timeMacro ∈ pieces := by
  rw [standsIn_iff]
  obtain ⟨tail, htoken, -⟩ := timeMacro.token_eq
  constructor
  · intro hinside
    induction pieces with
    | nil => simp [htoken] at hinside
    | cons piece rest ih =>
        cases piece with
        | char c =>
            rw [textOf_char, List.infix_cons_iff] at hinside
            rcases hinside with ⟨after, heq⟩ | hinside
            · rw [htoken] at heq
              exact absurd (List.cons.inj heq).1.symm h.1
            · exact List.mem_cons_of_mem _ (ih h.2 hinside)
        | token other =>
            obtain ⟨otherTail, hother, hword⟩ := other.token_eq
            by_cases heq : other = timeMacro
            · rw [heq]
              exact List.mem_cons_self
            · apply List.mem_cons_of_mem
              apply ih h.2
              rw [textOf_token, hother, List.cons_append, List.infix_cons_iff] at hinside
              rcases hinside with ⟨after, hafter⟩ | hinside
              · rw [← List.cons_append, ← hother] at hafter
                exact absurd (eq_of_token_append hafter).symm heq
              · rw [htoken] at hinside ⊢
                exact infix_of_infix_append
                  (fun hmem => ne_dollar_of_isWord (hword _ hmem) rfl) hinside
  · intro hmem
    obtain ⟨start, after, rfl⟩ := List.append_of_mem hmem
    exact ⟨textOf start, textOf after, by simp⟩

theorem substitute_textOf {pieces : List Piece} (h : Delimited pieces) :
    substitute values (textOf pieces) = textOf (fill values pieces) := replaceFrom_textOf h none

theorem replace_textOf {pieces : List Piece} (h : Delimited pieces) (timeMacro : TimeMacro)
    (value : List Char) :
    timeMacro.replace value (textOf pieces) = textOf (fill (timeMacro.only value) pieces) := by
  rw [replace_eq_substitute, substitute_textOf h]

-- Where no value holds a dollar sign, the macros that have no value are those that are left.
theorem standsIn_substitute_iff
    (hvalues : ∀ timeMacro value, values timeMacro = some value → '$' ∉ value)
    {pieces : List Piece} (h : Delimited pieces) {timeMacro : TimeMacro} :
    timeMacro.standsIn (substitute values (textOf pieces)) = true ↔
      timeMacro.standsIn (textOf pieces) = true ∧ values timeMacro = none := by
  rw [substitute_textOf h, standsIn_textOf (delimited_fill hvalues h), token_mem_fill_iff,
    standsIn_textOf h]

-- Passes for one macro after the other are one scan for all of them, where the first value given
-- for a macro counts.
theorem foldl_replace_textOf {steps : List (TimeMacro × List Char)}
    (hsteps : ∀ step ∈ steps, '$' ∉ step.2) {pieces : List Piece} (h : Delimited pieces) :
    steps.foldl (fun text step => step.1.replace step.2 text) (textOf pieces) =
      substitute (fun timeMacro => steps.lookup timeMacro) (textOf pieces) := by
  induction steps generalizing pieces with
  | nil => simp only [List.foldl_nil, List.lookup_nil, substitute_textOf h, fill_none]
  | cons step steps ih =>
      obtain ⟨timeMacro, value⟩ := step
      have hplain := delimited_fill_only timeMacro (hsteps _ List.mem_cons_self) h
      have hlookup : (fun other => timeMacro.only value other <|> steps.lookup other) =
          fun other => ((timeMacro, value) :: steps).lookup other := by
        funext other
        by_cases heq : other = timeMacro
        · simp [only, heq]
        · simp [only, heq, List.lookup_cons, beq_false_of_ne heq]
      rw [List.foldl_cons, replace_textOf h,
        ih (fun step hmem => hsteps step (List.mem_cons_of_mem _ hmem)) hplain,
        substitute_textOf hplain, fill_fill, hlookup, substitute_textOf h]

end scan

-- Passes that stay clear of macros change the characters between them only.
def SameMacros (a b : List Piece) : Prop :=
  ∀ timeMacro, .token timeMacro ∈ a ↔ .token timeMacro ∈ b

theorem SameMacros.trans {a b c : List Piece} (hab : SameMacros a b) (hbc : SameMacros b c) :
    SameMacros a c := fun timeMacro => (hab timeMacro).trans (hbc timeMacro)

theorem SameMacros.char {a b : List Piece} (h : SameMacros a b) (c : Char) :
    SameMacros a (.char c :: b) := by
  intro timeMacro
  simp [h timeMacro]

theorem SameMacros.chars {a b : List Piece} (h : SameMacros a b) (value : List Char) :
    SameMacros (value.map .char ++ a) b := by
  intro timeMacro
  simp [h timeMacro]

-- A pass whose hits stay clear of macros keeps a text delimited: it only exchanges characters
-- between macros, and not the one that directly follows a macro.
theorem exists_pieces_replaceFrom {recognise : Recogniser} (hclear : StaysClear recognise)
    (hplain : ∀ before text hit, recognise before text = some hit → '$' ∉ hit.text)
    {pieces : List Piece} (h : Delimited pieces) (before : Option Char) (skip : Nat)
    (hskip : '$' ∉ (textOf pieces).take skip) :
    ∃ result, Delimited result ∧ SameMacros result pieces ∧
      textOf result = replaceFrom recognise before skip (textOf pieces) ∧
      (skip = 0 → before.any isWord = true →
        (∀ piece, pieces.head? = some piece → piece.endsWord) →
        ∀ piece, result.head? = some piece → piece.endsWord) := by
  induction pieces generalizing before skip with
  | nil => exact ⟨[], trivial, fun _ => Iff.rfl, rfl, fun _ _ h => h⟩
  | cons piece rest ih =>
      cases piece with
      | char c =>
          rw [textOf_char] at hskip ⊢
          cases skip with
          | succ skip =>
              obtain ⟨result, hresult, hsame, htext, -⟩ := ih h.2 (some c) skip
                (fun hmem => hskip (by simp [hmem]))
              exact ⟨result, hresult, hsame.char c, by simpa [replaceFrom] using htext,
                fun h => by cases h⟩
          | zero =>
              cases hhit : recognise before (c :: textOf rest) with
              | some hit =>
                  have hfree : '$' ∉ (textOf rest).take (hit.length - 1) := by
                    intro hmem
                    apply hclear.takesNoDollar hhit
                    rw [← Nat.sub_add_cancel (hclear.takesSome hhit), List.take_succ_cons]
                    exact List.mem_cons_of_mem _ hmem
                  obtain ⟨result, hresult, hsame, htext, -⟩ :=
                    ih h.2 (some c) (hit.length - 1) hfree
                  refine ⟨hit.text.map .char ++ result,
                    delimited_append_chars (hplain _ _ _ hhit) hresult, (hsame.char c).chars _,
                    ?_, ?_⟩
                  · simp [replaceFrom, hhit, htext]
                  · intro _ hword
                    obtain ⟨b, rfl, hb⟩ := (Option.any_eq_true ..).mp hword
                    rw [hclear.notAfterWord hb] at hhit
                    cases hhit
              | none =>
                  obtain ⟨result, hresult, hsame, htext, -⟩ := ih h.2 (some c) 0 (by simp)
                  exact ⟨.char c :: result, ⟨h.1, hresult⟩, (hsame.char c).chars [c],
                    by simp [replaceFrom, hhit, htext], fun _ _ h => h⟩
      | token timeMacro =>
          obtain ⟨tail, heq, -⟩ := timeMacro.token_eq
          obtain rfl : skip = 0 := by
            cases skip with
            | zero => rfl
            | succ skip => exact absurd (by simp [heq]) hskip
          obtain ⟨result, hresult, hsame, htext, hhead⟩ :=
            ih h.2 (timeMacro.token.getLast?.or before) 0 (by simp)
          refine ⟨.token timeMacro :: result,
            ⟨hhead rfl (timeMacro.isWord_last before) h.1, hresult⟩, ?_, ?_, ?_⟩
          · intro other
            simp [hsame other]
          · rw [textOf_token, textOf_token, (hclear.passes timeMacro before).replaceFrom_append,
              htext]
          · intro _ _ hends
            exact (hends _ rfl).elim

theorem exists_pieces_replaceAll {recognise : Recogniser} (hclear : StaysClear recognise)
    (hplain : ∀ before text hit, recognise before text = some hit → '$' ∉ hit.text)
    {pieces : List Piece} (h : Delimited pieces) :
    ∃ result, Delimited result ∧ SameMacros result pieces ∧
      textOf result = replaceAll recognise (textOf pieces) := by
  obtain ⟨result, hresult, hsame, htext, -⟩ :=
    exists_pieces_replaceFrom hclear hplain h none 0 (by simp)
  exact ⟨result, hresult, hsame, htext⟩

end Piece

end TimePanel
