import TimePanel.Proofs.Text.Case
import TimePanel.Text.Scan

/-! What searching and replacing do to a text: where hits lie, and what stays as it is. -/

namespace TimePanel.Text

theorem after?_eq_some_iff {word text rest : List Char} :
    after? word text = some rest ↔ text = word ++ rest := by
  unfold after?
  constructor
  · intro h
    split at h
    · next hp =>
      obtain ⟨tail, rfl⟩ := List.isPrefixOf_iff_prefix.mp hp
      simpa using h
    · cases h
  · rintro rfl
    simp

@[simp] theorem after?_append (word rest : List Char) : after? word (word ++ rest) = some rest :=
  after?_eq_some_iff.mpr rfl

-- What a comparison without case takes up spells the word.
theorem afterFolded?_split {word text rest : List Char} (h : afterFolded? word text = some rest) :
    ∃ taken, text = taken ++ rest ∧ Spells taken word := by
  induction word generalizing text with
  | nil =>
      cases h
      exact ⟨[], rfl, rfl⟩
  | cons w word ih =>
      cases text with
      | nil => cases h
      | cons c text =>
          simp only [afterFolded?] at h
          split at h
          · next hc =>
            obtain ⟨taken, rfl, htaken⟩ := ih h
            have hk : caseKey w = caseKey c := by simpa [sameLetter] using hc
            have hrest : taken.map caseKey = word.map caseKey := htaken
            exact ⟨c :: taken, rfl, by simp [Spells, hrest, hk]⟩
          · cases h

theorem afterFolded?_append {taken word : List Char} (h : Spells taken word) (rest : List Char) :
    afterFolded? word (taken ++ rest) = some rest := by
  induction word generalizing taken with
  | nil =>
      obtain rfl : taken = [] := List.map_eq_nil_iff.mp h
      rfl
  | cons w word ih =>
      obtain ⟨c, taken, rfl, hkey, htaken⟩ := List.map_eq_cons_iff.mp h
      have hsame : sameLetter w c = true := by simpa [sameLetter] using hkey.symm
      rw [List.cons_append, afterFolded?, if_pos hsame, ih htaken]

-- Whether a text is made of blanks, at least one.
def IsGap (gap : List Char) : Prop := gap ≠ [] ∧ ∀ c ∈ gap, isBlank c = true

theorem afterBlanks?_split {text rest : List Char} (h : afterBlanks? text = some rest) :
    ∃ taken, text = taken ++ rest ∧ IsGap taken := by
  cases text with
  | nil => cases h
  | cons c text =>
      simp only [afterBlanks?] at h
      split at h
      · next hc =>
        cases h
        refine ⟨c :: text.takeWhile isBlank, by simp, by simp, ?_⟩
        intro d hd
        rcases List.mem_cons.mp hd with rfl | hd
        · exact hc
        · exact List.all_eq_true.mp List.all_takeWhile d hd
      · cases h

theorem afterBlanks?_append {gap rest : List Char} (h : IsGap gap)
    (hrest : rest.head?.any isBlank = false) : afterBlanks? (gap ++ rest) = some rest := by
  obtain ⟨c, gap, rfl⟩ := List.exists_cons_of_ne_nil h.1
  obtain ⟨hc, hgap⟩ := List.forall_mem_cons.mp h.2
  rw [List.cons_append, afterBlanks?, if_pos hc, List.dropWhile_append_of_pos hgap]
  cases rest with
  | nil => rfl
  | cons d rest => rw [List.dropWhile_cons_of_neg (by simpa using hrest)]

theorem IsGap.mark_not_mem {gap : List Char} (h : IsGap gap) {mark : Char}
    (hmark : mark ∈ marks) : mark ∉ gap := by
  intro hmem
  have hblank := h.2 mark hmem
  simp only [marks, List.mem_cons, List.not_mem_nil, or_false] at hmark
  rcases hmark with rfl | rfl <;> exact absurd hblank (by decide)

-- Blanks around a text that has none of its own are all that is stripped.
theorem strip_padded {before text after : List Char} (hbefore : ∀ c ∈ before, isBlank c = true)
    (htext : ∀ c ∈ text, isBlank c = false) (hafter : ∀ c ∈ after, isBlank c = true) :
    strip (before ++ text ++ after) = text := by
  have hkept (rest : List Char) (hrest : ∀ c ∈ rest, isBlank c = false) :
      rest.dropWhile isBlank = rest := by
    cases rest with
    | nil => rfl
    | cons c rest => rw [List.dropWhile_cons_of_neg (by simp [hrest c])]
  cases text with
  | nil =>
      have hall : ∀ c ∈ before ++ [] ++ after, isBlank c = true := by
        simpa [or_imp, forall_and] using And.intro hbefore hafter
      rw [strip, ← List.append_nil (before ++ [] ++ after), List.dropWhile_append_of_pos hall]
      rfl
  | cons c text =>
      have hhead : isBlank c = false := htext c List.mem_cons_self
      have hreversed : ∀ d ∈ (c :: text).reverse, isBlank d = false :=
        fun d hd => htext d (List.mem_reverse.mp hd)
      rw [strip, List.append_assoc, List.dropWhile_append_of_pos hbefore, List.cons_append,
        List.dropWhile_cons_of_neg (by simp [hhead]), ← List.cons_append, List.reverse_append,
        List.dropWhile_append_of_pos fun d hd => hafter d (List.mem_reverse.mp hd),
        hkept _ hreversed, List.reverse_reverse]

theorem contains_iff {part text : List Char} : contains part text = true ↔ part <:+: text := by
  induction text with
  | nil => simp [contains, List.isEmpty_iff]
  | cons c rest ih =>
      simp only [contains, Bool.or_eq_true, List.isPrefixOf_iff_prefix, ih, List.infix_cons_iff]

variable {recognise : Recogniser}

-- A text without hits stays as it is.
theorem replaceFrom_of_no_hits {before : Option Char} {text : List Char}
    (h : hitsFrom recognise before 0 text = []) : replaceFrom recognise before 0 text = text := by
  induction text generalizing before with
  | nil => rfl
  | cons c rest ih =>
      simp only [hitsFrom, replaceFrom, Nat.lt_irrefl, ite_false] at h ⊢
      split at h
      · cases h
      · next hn => rw [ih h]

theorem replaceAll_of_not_occurs {text : List Char} (h : occurs recognise text = false) :
    replaceAll recognise text = text := by
  apply replaceFrom_of_no_hits
  simpa [occurs, hits] using h

-- The first place that a recogniser accepts is always a hit: no hit before it can cover it.
theorem hitsFrom_ne_nil {before : Option Char} {start rest : List Char} (hrest : rest ≠ [])
    (h : (recognise (start.getLast?.or before) rest).isSome) :
    hitsFrom recognise before 0 (start ++ rest) ≠ [] := by
  induction start generalizing before with
  | nil =>
      obtain ⟨c, rest, rfl⟩ := List.exists_cons_of_ne_nil hrest
      obtain ⟨hit, hhit⟩ := Option.isSome_iff_exists.mp h
      simp only [List.getLast?_nil, Option.none_or] at hhit
      simp [hitsFrom, hhit]
  | cons c start ih =>
      simp only [List.cons_append, hitsFrom, Nat.lt_irrefl, ite_false]
      split
      · simp
      · apply ih
        simpa [List.getLast?_cons] using h

theorem occurs_of_recognise {start rest : List Char} (hrest : rest ≠ [])
    (h : (recognise start.getLast? rest).isSome) : occurs recognise (start ++ rest) = true := by
  have hn : hitsFrom recognise none 0 (start ++ rest) ≠ [] :=
    hitsFrom_ne_nil hrest (by simpa using h)
  simpa [occurs, hits, List.isEmpty_iff] using hn

-- Conversely a hit lies at some place that the recogniser accepts.
theorem exists_of_hitsFrom_ne_nil {before : Option Char} {skip : Nat} {text : List Char}
    (h : hitsFrom recognise before skip text ≠ []) :
    ∃ start rest, text = start ++ rest ∧ rest ≠ [] ∧
      (recognise (start.getLast?.or before) rest).isSome := by
  induction text generalizing before skip with
  | nil => exact absurd rfl h
  | cons c rest ih =>
      have later {skip : Nat} (h : hitsFrom recognise (some c) skip rest ≠ []) :
          ∃ start tail, c :: rest = start ++ tail ∧ tail ≠ [] ∧
            (recognise (start.getLast?.or before) tail).isSome := by
        obtain ⟨start, tail, rfl, htail, hr⟩ := ih h
        exact ⟨c :: start, tail, rfl, htail, by simpa [List.getLast?_cons] using hr⟩
      simp only [hitsFrom] at h
      split at h
      · exact later h
      · split at h
        · next hit hhit => exact ⟨[], c :: rest, rfl, by simp, by simp [hhit]⟩
        · exact later h

theorem exists_of_occurs {text : List Char} (h : occurs recognise text = true) :
    ∃ start rest, text = start ++ rest ∧ rest ≠ [] ∧ (recognise start.getLast? rest).isSome := by
  have hn : hitsFrom recognise none 0 text ≠ [] := by
    simpa [occurs, hits, List.isEmpty_iff] using h
  simpa using exists_of_hitsFrom_ne_nil hn

theorem exists_of_mem_hitsFrom {before : Option Char} {skip : Nat} {text : List Char} {hit : Hit}
    (h : hit ∈ hitsFrom recognise before skip text) :
    ∃ start rest, text = start ++ rest ∧
      recognise (start.getLast?.or before) rest = some hit := by
  induction text generalizing before skip with
  | nil => cases h
  | cons c rest ih =>
      have later {skip : Nat} (h : hit ∈ hitsFrom recognise (some c) skip rest) :
          ∃ start tail, c :: rest = start ++ tail ∧
            recognise (start.getLast?.or before) tail = some hit := by
        obtain ⟨start, tail, rfl, hr⟩ := ih h
        exact ⟨c :: start, tail, rfl, by simpa [List.getLast?_cons] using hr⟩
      simp only [hitsFrom] at h
      split at h
      · exact later h
      · split at h
        · next found hfound =>
          rcases List.mem_cons.mp h with rfl | h
          · exact ⟨[], c :: rest, rfl, hfound⟩
          · exact later h
        · exact later h

theorem exists_of_mem_hits {text : List Char} {hit : Hit} (h : hit ∈ hits recognise text) :
    ∃ start rest, text = start ++ rest ∧ recognise start.getLast? rest = some hit := by
  simpa using exists_of_mem_hitsFrom h

-- What belongs to a hit is left out.
theorem replaceFrom_skip (recognise : Recogniser) (before : Option Char) (word rest : List Char) :
    replaceFrom recognise before word.length (word ++ rest) =
      replaceFrom recognise (word.getLast?.or before) 0 rest := by
  induction word generalizing before with
  | nil => simp
  | cons c word ih =>
      simp only [List.cons_append, List.length_cons, replaceFrom, Nat.zero_lt_succ, ite_true,
        Nat.add_sub_cancel, ih, List.getLast?_cons]
      cases word.getLast? <;> rfl

theorem replaceFrom_hit {before : Option Char} {word rest value : List Char} (hword : word ≠ [])
    (h : recognise before (word ++ rest) = some ⟨word.length, value⟩) :
    replaceFrom recognise before 0 (word ++ rest) =
      value ++ replaceFrom recognise (word.getLast?.or before) 0 rest := by
  obtain ⟨c, word, rfl⟩ := List.exists_cons_of_ne_nil hword
  rw [List.cons_append] at h ⊢
  simp only [replaceFrom, Nat.lt_irrefl, ite_false, h, List.length_cons, Nat.add_sub_cancel,
    replaceFrom_skip, List.getLast?_cons]
  cases word.getLast? <;> rfl

-- No hit begins within a word that stands after `before`, whatever follows the word.
def Passes (recognise : Recogniser) : Option Char → List Char → Prop
  | _, [] => True
  | before, c :: word =>
      (∀ after, recognise before (c :: word ++ after) = none) ∧ Passes recognise (some c) word

theorem Passes.replaceFrom_append {before : Option Char} {word : List Char}
    (h : Passes recognise before word) (after : List Char) :
    replaceFrom recognise before 0 (word ++ after) =
      word ++ replaceFrom recognise (word.getLast?.or before) 0 after := by
  induction word generalizing before with
  | nil => simp
  | cons c word ih =>
      obtain ⟨hhead, htail⟩ := h
      have hnone := hhead after
      rw [List.cons_append] at hnone
      simp only [List.cons_append, replaceFrom, Nat.lt_irrefl, ite_false, hnone, ih htail,
        List.getLast?_cons]
      cases word.getLast? <;> rfl

-- Hits that begin before a mark end before it, unless the mark is their first character.
def EndsBefore (recognise : Recogniser) (mark : Char) : Prop :=
  ∀ before text hit, recognise before text = some hit → mark ∉ (text.take hit.length).tail

-- A word that starts with the mark is still there after the replacements.
theorem infix_replaceFrom {mark : Char} {tail : List Char}
    (hends : EndsBefore recognise mark) (hpasses : ∀ before, Passes recognise before (mark :: tail))
    (start after : List Char) (before : Option Char) (skip : Nat) (hskip : skip ≤ start.length) :
    mark :: tail <:+: replaceFrom recognise before skip (start ++ (mark :: tail ++ after)) := by
  induction start generalizing before skip with
  | nil =>
      obtain rfl : skip = 0 := by simpa using hskip
      rw [List.nil_append, (hpasses before).replaceFrom_append]
      exact (List.prefix_append _ _).isInfix
  | cons c start ih =>
      rw [List.length_cons] at hskip
      simp only [List.cons_append, replaceFrom]
      split
      · exact ih (some c) (skip - 1) (by omega)
      · split
        · next hit hhit =>
          have hfree := hends _ _ _ hhit
          have hlength : hit.length - 1 ≤ start.length := by
            refine Nat.le_of_not_lt fun hlong => hfree ?_
            obtain ⟨more, hmore⟩ : ∃ more, hit.length = start.length + 1 + more + 1 :=
              ⟨hit.length - start.length - 2, by omega⟩
            have htake : start ++ [mark] <+: (start ++ (mark :: (tail ++ after))).take
                (start.length + 1 + more) := by
              rw [List.prefix_take_iff]
              exact ⟨⟨tail ++ after, by simp⟩, by simp⟩
            rw [hmore, List.take_succ_cons, List.tail_cons]
            exact htake.subset (by simp)
          exact (ih (some c) (hit.length - 1) hlength).trans (List.suffix_append _ _).isInfix
        · exact (ih (some c) 0 (Nat.zero_le _)).trans (List.suffix_cons _ _).isInfix

-- A word that begins with a mark is not begun in a text without the mark.
theorem infix_of_infix_append {mark : Char} {tail start text : List Char} (hstart : mark ∉ start)
    (h : mark :: tail <:+: start ++ text) : mark :: tail <:+: text := by
  induction start with
  | nil => exact h
  | cons c start ih =>
      rw [List.mem_cons, not_or] at hstart
      rw [List.cons_append, List.infix_cons_iff] at h
      rcases h with ⟨after, heq⟩ | h
      · exact absurd (List.cons.inj heq).1 hstart.1
      · exact ih hstart.2 h

end TimePanel.Text
