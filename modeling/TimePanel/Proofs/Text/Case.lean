import TimePanel.Text.Case
import TimePanel.Text.Word

/-! Spellings of the characters of the first 128 code points, and which of them other scripts
share. -/

namespace TimePanel.Text

-- Beyond the first 128 code points only a dotted capital I and the sign for kelvin have lower-case
-- forms among them.
theorem caseRuns_target {run : CaseRun} (hrun : run ∈ caseRuns) {code : Nat}
    (hcode : run.has code = true) :
    128 ≤ code + run.shift ∨ code + run.shift = 105 ∨ code + run.shift = 107 := by
  have htable : ∀ run ∈ caseRuns, 128 ≤ run.first + run.shift ∨
      run.first = run.last ∧ (run.first + run.shift = 105 ∨ run.first + run.shift = 107) := by
    decide +kernel
  have hstart := htable run hrun
  simp only [CaseRun.has, Bool.and_eq_true, decide_eq_true_eq] at hcode
  omega

theorem toNat_ofNat (code : Nat) :
    (Char.ofNat code).toNat = code ∨ (Char.ofNat code).toNat = 0 := by
  unfold Char.ofNat
  by_cases h : code.isValidChar
  · rw [dif_pos h]
    exact Or.inl rfl
  · rw [dif_neg h]
    exact Or.inr rfl

theorem toNat_lowerChar {c : Char} (hc : 128 ≤ c.toNat) :
    128 ≤ (lowerChar c).toNat ∨ (lowerChar c).toNat = 0 ∨ (lowerChar c).toNat = 105 ∨
      (lowerChar c).toNat = 107 := by
  unfold lowerChar
  rw [if_neg (by omega)]
  split
  · next run hrun =>
    have htarget := caseRuns_target (List.mem_of_find?_eq_some hrun)
      (by simpa using List.find?_some hrun)
    rcases toNat_ofNat (c.toNat + run.shift).toNat with h | h <;> rw [h] <;> omega
  · exact Or.inl hc

-- Apart from i, k and s, what spells one of the first 128 characters in some case is one of them.
theorem toLower_of_caseKey {c : Char} (code : Nat) (h : caseKey c = code) (hcode : code < 128)
    (h0 : code ≠ 0) (hi : code ≠ 105) (hk : code ≠ 107) (hs : code ≠ 115) :
    c.toNat < 128 ∧ c.toLower.toNat = code := by
  have hlower : (lowerChar c).toNat = code := by
    simp only [caseKey] at h
    split at h
    · next first rest hfind =>
      have hfirst : ∀ spellings ∈ caseClasses, 128 ≤ spellings.headD 128 ∨
          spellings.headD 128 = 105 ∨ spellings.headD 128 = 115 := by
        decide
      have hmem := hfirst _ (List.mem_of_find?_eq_some hfind)
      simp only [List.headD_cons] at hmem
      omega
    · exact h
  by_cases hc : c.toNat < 128
  · simp only [lowerChar, if_pos hc] at hlower
    exact ⟨hc, hlower⟩
  · have := toNat_lowerChar (c := c) (by omega)
    omega

theorem forall_ascii {p : Char → Prop} (h : ∀ code < 128, p (Char.ofNat code)) {c : Char}
    (hc : c.toNat < 128) : p c := by
  have := h c.toNat hc
  rwa [Char.ofNat_toNat] at this

-- Marks without a case are spelled in one way only.
def marks : List Char := ['$', '.']

-- A word has no marks.
theorem mark_not_mem_of_isWord {mark : Char} {word : List Char} (hmark : mark ∈ marks)
    (hword : word.all isWord = true) : mark ∉ word := by
  intro hmem
  have hletter := List.all_eq_true.mp hword mark hmem
  simp only [marks, List.mem_cons, List.not_mem_nil, or_false] at hmark
  rcases hmark with rfl | rfl <;> exact absurd hletter (by decide)

theorem eq_mark_of_caseKey {c mark : Char} (hmark : mark ∈ marks) (h : caseKey c = caseKey mark) :
    c = mark := by
  have hcase : (caseKey mark = 36 ∨ caseKey mark = 46) ∧
      ∀ code < 128, (Char.ofNat code).toLower.toNat = caseKey mark → Char.ofNat code = mark := by
    simp only [marks, List.mem_cons, List.not_mem_nil, or_false] at hmark
    rcases hmark with rfl | rfl
    · exact ⟨by decide, by decide⟩
    · exact ⟨by decide, by decide⟩
  obtain ⟨hkey, hcodes⟩ := hcase
  obtain ⟨hc, hlower⟩ := toLower_of_caseKey _ h (by omega) (by omega) (by omega) (by omega)
    (by omega)
  exact forall_ascii (p := fun c => c.toLower.toNat = caseKey mark → c = mark) hcodes hc hlower

theorem eq_dollar_of_caseKey {c : Char} (h : caseKey c = caseKey '$') : c = '$' :=
  eq_mark_of_caseKey (by decide) h

theorem lowerChar_eq_dollar {c : Char} (h : lowerChar c = '$') : c = '$' := by
  apply eq_dollar_of_caseKey
  have hd : lowerChar '$' = '$' := by decide
  simp only [caseKey, h, hd]

theorem mem_dollar_of_lowerFrom {before text : List Char} (h : '$' ∈ lowerFrom before text) :
    '$' ∈ text := by
  induction text generalizing before with
  | nil => cases h
  | cons c rest ih =>
      simp only [lowerFrom, List.mem_append] at h
      rcases h with h | h
      · apply List.mem_cons.mpr
        left
        split at h
        · exact absurd h (by decide)
        · split at h
          · exact absurd h (by decide)
          · exact (lowerChar_eq_dollar (List.mem_singleton.mp h).symm).symm
      · exact List.mem_cons_of_mem _ (ih h)

theorem dollar_mem_lower {text : List Char} (h : '$' ∈ text) : '$' ∈ lower text := by
  have hstep : ∀ before, '$' ∈ lowerFrom before text := by
    induction text with
    | nil => cases h
    | cons c rest ih =>
        intro before
        simp only [lowerFrom, List.mem_append]
        rcases List.mem_cons.mp h with rfl | h
        · left
          simp [show ¬('$' = capitalSigma) by decide, show ¬('$' = dottedCapitalI) by decide,
            show lowerChar '$' = '$' by decide]
        · exact Or.inr (ih h _)
  exact hstep []

theorem dollar_mem_lower_iff {text : List Char} : '$' ∈ lower text ↔ '$' ∈ text :=
  ⟨mem_dollar_of_lowerFrom, dollar_mem_lower⟩

-- The first letters of the words that introduce groups and orders are letters in every spelling.
theorem isWord_of_caseKey {c : Char} (h : caseKey c = caseKey 'g' ∨ caseKey c = caseKey 'o') :
    isWord c = true ∧ c ≠ '_' := by
  have hletter : ∀ code < 128, (Char.ofNat code).toLower.toNat = 103 ∨
      (Char.ofNat code).toLower.toNat = 111 →
      isWord (Char.ofNat code) = true ∧ Char.ofNat code ≠ '_' := by
    decide
  have hcase : c.toNat < 128 ∧ (c.toLower.toNat = 103 ∨ c.toLower.toNat = 111) := by
    rcases h with h | h
    · have := toLower_of_caseKey 103 (h.trans (by decide)) (by decide) (by decide)
        (by decide) (by decide) (by decide)
      exact ⟨this.1, Or.inl this.2⟩
    · have := toLower_of_caseKey 111 (h.trans (by decide)) (by decide) (by decide)
        (by decide) (by decide) (by decide)
      exact ⟨this.1, Or.inr this.2⟩
  exact forall_ascii (p := fun c => c.toLower.toNat = 103 ∨ c.toLower.toNat = 111 →
    isWord c = true ∧ c ≠ '_') hletter hcase.1 hcase.2

-- Whether a text is a word in some spelling.
def Spells (spelling word : List Char) : Prop := spelling.map caseKey = word.map caseKey

instance (spelling word : List Char) : Decidable (Spells spelling word) :=
  inferInstanceAs (Decidable (spelling.map caseKey = word.map caseKey))

namespace Spells

variable {spelling word : List Char}

theorem exists_mem (h : Spells spelling word) {c : Char} (hc : c ∈ spelling) :
    ∃ d ∈ word, caseKey d = caseKey c := by
  rw [← List.mem_map, ← h]
  exact List.mem_map_of_mem hc

theorem ne_nil (h : Spells spelling word) (hword : word ≠ []) : spelling ≠ [] := by
  rintro rfl
  exact hword (List.map_eq_nil_iff.mp h.symm)

theorem mark_not_mem (h : Spells spelling word) {mark : Char} (hmark : mark ∈ marks)
    (hword : mark ∉ word) : mark ∉ spelling := by
  intro hmem
  obtain ⟨c, hc, hkey⟩ := h.exists_mem hmem
  exact hword (eq_mark_of_caseKey hmark hkey ▸ hc)

end Spells

-- The letters of the words that introduce groups and orders.
def keywordLetters : List Char := ['g', 'r', 'o', 'u', 'p', 'd', 'e', 'b', 'y']

-- Beyond the first 128 code points four letters share a spelling with one of them: both forms of i
-- that other alphabets have, the long s, and the sign for kelvin.
def strayLetters : List Nat := [0x130, 0x131, 0x17F, 0x212A]

theorem caseRuns_target_stray {run : CaseRun} (hrun : run ∈ caseRuns) {code : Nat}
    (hcode : run.has code = true) : code ∈ strayLetters ∨
      128 ≤ code + run.shift ∧ code + run.shift ≠ 0x131 ∧ code + run.shift ≠ 0x17F := by
  have htable : ∀ run ∈ caseRuns, (run.first = run.last ∧ run.first ∈ strayLetters) ∨
      128 ≤ run.first + run.shift ∧
        (run.last + run.shift < 0x131 ∨ 0x131 < run.first + run.shift) ∧
        (run.last + run.shift < 0x17F ∨ 0x17F < run.first + run.shift) := by
    decide +kernel
  have hplace := htable run hrun
  simp only [CaseRun.has, Bool.and_eq_true, decide_eq_true_eq] at hcode
  rcases hplace with ⟨hsingle, hstray⟩ | ⟨hlow, hi, hs⟩
  · left
    rwa [show code = run.first by omega]
  · right
    omega

theorem mem_strayLetters {c : Char} (hc : 128 ≤ c.toNat) (hkey : caseKey c < 128)
    (hkey0 : caseKey c ≠ 0) : c.toNat ∈ strayLetters := by
  -- The lower-case form is one of the first 128 characters, or the other half of a pair with one.
  have hlower : (lowerChar c).toNat = caseKey c ∨ (lowerChar c).toNat = 0x131 ∨
      (lowerChar c).toNat = 0x17F := by
    have hclasses : ∀ spellings ∈ caseClasses, spellings.headD 128 < 128 → ∀ code ∈ spellings,
        code = spellings.headD 128 ∨ code = 0x131 ∨ code = 0x17F := by
      decide
    unfold caseKey at hkey ⊢
    dsimp only at hkey ⊢
    split
    · next first rest hfind =>
      rw [hfind] at hkey
      refine hclasses _ (List.mem_of_find?_eq_some hfind) hkey _ ?_
      simpa using List.find?_some hfind
    · exact .inl rfl
  by_cases hrun : ∃ run, caseRuns.find? (·.has c.toNat) = some run
  · obtain ⟨run, hrun⟩ := hrun
    rcases caseRuns_target_stray (List.mem_of_find?_eq_some hrun)
      (by simpa using List.find?_some hrun) with hstray | htarget
    · exact hstray
    · have hform : lowerChar c = Char.ofNat (c.toNat + run.shift).toNat := by
        rw [lowerChar, if_neg (by omega), hrun]
      rw [hform] at hlower
      rcases toNat_ofNat (c.toNat + run.shift).toNat with h | h <;> rw [h] at hlower <;> omega
  · have hsame : lowerChar c = c := by
      rw [lowerChar, if_neg (by omega)]
      cases hfound : caseRuns.find? (·.has c.toNat) with
      | some run => exact absurd ⟨run, hfound⟩ hrun
      | none => rfl
    rw [hsame] at hlower
    have hfound : c.toNat = 0x131 ∨ c.toNat = 0x17F := by omega
    rcases hfound with h | h <;> rw [h] <;> decide

-- So what spells one of the first 128 characters of words is itself a character of words.
theorem isWord_of_caseKey_eq {c d : Char} (hd : d.toNat < 128) (hword : isWord d = true)
    (h : caseKey c = caseKey d) : isWord c = true := by
  have hascii : ∀ c : Char, c.toNat < 128 → caseKey c < 128 ∧ (isWord c = true ↔
      48 ≤ caseKey c ∧ caseKey c ≤ 57 ∨ caseKey c = 95 ∨ 97 ≤ caseKey c ∧ caseKey c ≤ 122) :=
    fun c hc => forall_ascii (p := fun c => caseKey c < 128 ∧ (isWord c = true ↔
      48 ≤ caseKey c ∧ caseKey c ≤ 57 ∨ caseKey c = 95 ∨ 97 ≤ caseKey c ∧ caseKey c ≤ 122))
      (by decide +kernel) hc
  obtain ⟨hkey, hletter⟩ := hascii d hd
  by_cases hc : c.toNat < 128
  · rw [(hascii c hc).2, h]
    exact hletter.mp hword
  · have hstray := mem_strayLetters (c := c) (by omega) (by omega)
      (by have := hletter.mp hword; omega)
    have hall : ∀ code ∈ strayLetters, isWord (Char.ofNat code) = true := by decide +kernel
    simpa using hall _ hstray

theorem Spells.forall_isWord_of_ascii {spelling word : List Char} (h : Spells spelling word)
    (hword : (word.all fun c => c.toNat < 128 && isWord c) = true) :
    ∀ c ∈ spelling, isWord c = true := by
  intro c hc
  obtain ⟨d, hd, hkey⟩ := h.exists_mem hc
  obtain ⟨hascii, hletter⟩ : d.toNat < 128 ∧ isWord d = true := by
    simpa using List.all_eq_true.mp hword d hd
  exact isWord_of_caseKey_eq hascii hletter hkey.symm

-- The words that introduce groups and orders are words in every spelling.
theorem Spells.forall_isWord {spelling word : List Char} (h : Spells spelling word)
    (hword : word.all keywordLetters.contains = true) : ∀ c ∈ spelling, isWord c = true := by
  have hletters : (keywordLetters.all fun c => c.toNat < 128 && isWord c) = true := by decide
  exact h.forall_isWord_of_ascii (List.all_eq_true.mpr fun d hd =>
    List.all_eq_true.mp hletters d (List.contains_iff_mem.mp (List.all_eq_true.mp hword d hd)))

-- The dot above that the dotted capital I leaves behind in lower case.
def dotAbove : Char := '\u0307'

theorem lowerChar_ne_dotAbove {c : Char} (h : c ≠ dotAbove) : lowerChar c ≠ dotAbove := by
  intro hlower
  unfold lowerChar at hlower
  split at hlower
  · next hc =>
    have hascii : ∀ code < 128, (Char.ofNat code).toLower ≠ dotAbove := by decide
    exact forall_ascii (p := fun c => c.toLower ≠ dotAbove) hascii hc hlower
  · split at hlower
    · next run hrun =>
      have htable : ∀ run ∈ caseRuns, run.last + run.shift < 0x307 ∨ 0x307 < run.first + run.shift := by
        decide +kernel
      have hplace := htable run (List.mem_of_find?_eq_some hrun)
      have hcode : run.has c.toNat = true := by simpa using List.find?_some hrun
      simp only [CaseRun.has, Bool.and_eq_true, decide_eq_true_eq] at hcode
      have htarget := congrArg Char.toNat hlower
      have hdot : dotAbove.toNat = 0x307 := by decide
      rcases toNat_ofNat (c.toNat + run.shift).toNat with h | h <;> rw [h] at htarget <;> omega
    · exact h hlower

-- The spellings that have a letter in common.
def caseClass (code : Nat) : Nat :=
  match caseClasses.find? (·.contains code) with
  | some (first :: _) => first
  | _ => code

-- Each character turns into one, and the dotted capital I leaves a dot above behind as well.
theorem lowerFrom_cons {c : Char} (hc : c ≠ dotAbove) (before rest : List Char) :
    ∃ x, x ≠ dotAbove ∧ caseKey c = caseClass x.toNat ∧
      (lowerFrom before (c :: rest) = x :: lowerFrom (c :: before) rest ∨
        lowerFrom before (c :: rest) = x :: dotAbove :: lowerFrom (c :: before) rest) := by
  simp only [lowerFrom]
  split
  · next hsigma =>
    exact ⟨finalSigma, by decide, by rw [hsigma.1]; decide +kernel, .inl rfl⟩
  · split
    · next hdotted => exact ⟨'i', by decide, by rw [hdotted]; decide +kernel, .inr rfl⟩
    · exact ⟨lowerChar c, lowerChar_ne_dotAbove hc, rfl, .inl rfl⟩

-- Texts that are the same in lower case are spellings of one another.
theorem spells_of_lower_eq {a b : List Char} (ha : dotAbove ∉ a) (hb : dotAbove ∉ b)
    (h : lower a = lower b) : Spells a b := by
  have hhead {before text : List Char} (htext : dotAbove ∉ text) (rest : List Char) :
      lowerFrom before text ≠ dotAbove :: rest := by
    cases text with
    | nil => simp [lowerFrom]
    | cons c text =>
        rw [List.mem_cons, not_or] at htext
        obtain ⟨x, hx, -, heq | heq⟩ := lowerFrom_cons (Ne.symm htext.1) before text
        · simp [heq, hx]
        · simp [heq, hx]
  have hall : ∀ before other, lowerFrom before a = lowerFrom other b → Spells a b := by
    clear h
    induction a generalizing b with
    | nil =>
        intro before other h
        cases b with
        | nil => rfl
        | cons d b =>
            rw [List.mem_cons, not_or] at hb
            obtain ⟨y, -, -, heq | heq⟩ := lowerFrom_cons (Ne.symm hb.1) other b
            · rw [heq] at h
              cases h
            · rw [heq] at h
              cases h
    | cons c a ih =>
        intro before other h
        rw [List.mem_cons, not_or] at ha
        obtain ⟨x, hx, hkey, hc⟩ := lowerFrom_cons (Ne.symm ha.1) before a
        cases b with
        | nil =>
            rcases hc with hc | hc
            · rw [hc] at h
              cases h
            · rw [hc] at h
              cases h
        | cons d b =>
            rw [List.mem_cons, not_or] at hb
            obtain ⟨y, hy, hkey', hd⟩ := lowerFrom_cons (Ne.symm hb.1) other b
            have hsame : x = y ∧ Spells a b := by
              rcases hc with hc | hc <;> rcases hd with hd | hd <;> rw [hc, hd] at h <;>
                obtain ⟨hxy, hrest⟩ := List.cons.inj h
              · exact ⟨hxy, ih ha.2 hb.2 _ _ hrest⟩
              · exact absurd hrest (hhead ha.2 _)
              · exact absurd hrest.symm (hhead hb.2 _)
              · exact ⟨hxy, ih ha.2 hb.2 _ _ (List.cons.inj hrest).2⟩
            obtain ⟨rfl, hrest⟩ := hsame
            exact List.cons_eq_cons.mpr ⟨hkey.trans hkey'.symm, hrest⟩
  exact hall [] [] h

-- In the first 128 code points each character turns into one, whatever stands around it.
theorem lower_of_ascii {text : List Char} (h : ∀ c ∈ text, c.toNat < 128) :
    lower text = text.map Char.toLower := by
  have hall : ∀ before, lowerFrom before text = text.map Char.toLower := by
    induction text with
    | nil => exact fun _ => rfl
    | cons c rest ih =>
        intro before
        obtain ⟨hc, hrest⟩ := List.forall_mem_cons.mp h
        have hsigma : c ≠ capitalSigma := by
          rintro rfl
          exact absurd hc (by decide)
        have hdotted : c ≠ dottedCapitalI := by
          rintro rfl
          exact absurd hc (by decide)
        rw [lowerFrom, if_neg (fun h => hsigma h.1), if_neg hdotted, ih hrest, lowerChar, if_pos hc]
        rfl
  exact hall []

-- So there the spellings of a text are the same in lower case.
theorem lower_eq_of_spells {a b : List Char} (ha : ∀ c ∈ a, c.toNat < 128)
    (hb : ∀ c ∈ b, c.toNat < 128) (h : Spells a b) : lower a = lower b := by
  have hkey : ∀ c : Char, c.toNat < 128 → Char.ofNat (caseKey c) = c.toLower :=
    fun c hc => forall_ascii (p := fun c => Char.ofNat (caseKey c) = c.toLower) (by decide) hc
  have hlower {text : List Char} (htext : ∀ c ∈ text, c.toNat < 128) :
      lower text = (text.map caseKey).map Char.ofNat := by
    rw [lower_of_ascii htext, List.map_map]
    exact List.map_congr_left fun c hc => (hkey c (htext c hc)).symm
  rw [hlower ha, hlower hb, h]

end TimePanel.Text
