import TimePanel.Number.Literal

/-! Reading whole numbers that are written in the digits 0 to 9. -/

namespace TimePanel

namespace Text

-- Among the first 128 characters, only the digits 0 to 9 have a decimal value.
theorem isDecimal_of_ascii {c : Char} (h : c.toNat < 128) : isDecimal c = c.isDigit := by
  rw [isDecimal, decimalValue?, if_pos h]
  cases c.isDigit <;> rfl

theorem toNat_lt_of_isDigit {c : Char} (h : c.isDigit = true) : c.toNat < 128 := by
  have hrange : '0'.toNat ≤ c.toNat ∧ c.toNat ≤ '9'.toNat := Char.isDigit_iff_toNat.mp h
  exact Nat.lt_of_le_of_lt hrange.2 (by decide)

theorem isDecimal_of_isDigit {c : Char} (h : c.isDigit = true) : isDecimal c = true :=
  (isDecimal_of_ascii (toNat_lt_of_isDigit h)).trans h

theorem decimalValue?_of_isDigit {c : Char} (h : c.isDigit = true) :
    decimalValue? c = some (c.toNat - '0'.toNat) := by
  rw [decimalValue?, if_pos (toNat_lt_of_isDigit h), if_pos h]

theorem isBlank_of_isDigit {c : Char} (h : c.isDigit = true) : isBlank c = false := by
  have hcodes : ∀ code < 58, 48 ≤ code → blankRanges.has code = false := by decide
  have hrange : 48 ≤ c.toNat ∧ c.toNat ≤ 57 := Char.isDigit_iff_toNat.mp h
  exact hcodes c.toNat (by omega) hrange.1

end Text

namespace Literal

variable {digits : List Char}

theorem digitsFrom_of_isDigit (h : ∀ c ∈ digits, c.isDigit = true) (afterDigit : Bool) :
    digitsFrom afterDigit digits = ⟨digits.map fun c => c.toNat - '0'.toNat, []⟩ := by
  induction digits generalizing afterDigit with
  | nil => rfl
  | cons c rest ih =>
      have hc := Text.decimalValue?_of_isDigit (h c List.mem_cons_self)
      have hrest := ih (fun d hd => h d (List.mem_cons_of_mem c hd)) true
      simp only [digitsFrom, hc, hrest, List.map_cons]

theorem ofDigits_map (digits : List Char) :
    ofDigits (digits.map fun c => c.toNat - '0'.toNat) = Nat.ofDigitChars 10 digits 0 := by
  rw [ofDigits, List.foldl_map, Nat.ofDigitChars]

-- Digits have no sign in front of them, so all of them are read, up to the limit.
theorem integer?_of_isDigit (h : ∀ c ∈ digits, c.isDigit = true) (hsome : digits ≠ [])
    (hlength : digits.length ≤ maxDigits) :
    integer? digits = some (Nat.ofDigitChars 10 digits 0 : Int) := by
  have hsign : sign digits = (false, digits) := by
    cases digits with
    | nil => rfl
    | cons c rest =>
        have hc := h c List.mem_cons_self
        unfold sign
        split
        · next heq =>
          obtain ⟨rfl, -⟩ := List.cons.inj heq
          exact absurd hc (by decide)
        · next heq =>
          obtain ⟨rfl, -⟩ := List.cons.inj heq
          exact absurd hc (by decide)
        · rfl
  simp only [integer?, hsign, Literal.digits, digitsFrom_of_isDigit h, ofDigits_map]
  simp [hsome, hlength]

end Literal

end TimePanel
