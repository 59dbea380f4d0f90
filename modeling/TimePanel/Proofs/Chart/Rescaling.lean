import TimePanel.Proofs.Calendar.Literal
import TimePanel.Proofs.Chart.Coercion
import TimePanel.Proofs.Chart.Order
import TimePanel.Proofs.Number.Literal
import TimePanel.Proofs.Text.Scan

/-! Whole numbers as milliseconds since the start of 1970: which of them count time, in which unit,
and what becomes of them. -/

namespace TimePanel

namespace Literal

-- A whole number is read from its own digits.
theorem number?_toString {n : Nat} (h : n < 10 ^ maxDigits) :
    number? (toString n).toList = some (.int n) := by
  have hdigits : ∀ c ∈ (toString n).toList, c.isDigit = true := fun c hc => Text.isDigit_toString hc
  have hlength : (toString n).toList.length ≤ maxDigits := by
    rw [Nat.toString_eq_repr, Nat.toList_repr]
    exact (Nat.length_toDigits_le_iff (by decide) (by decide)).mpr h
  have hsome : (toString n).toList ≠ [] := by
    rw [Nat.toString_eq_repr, Nat.toList_repr]
    exact Nat.toDigits_ne_nil
  have hblank : ∀ c ∈ (toString n).toList, Text.isBlank c = false :=
    fun c hc => Text.isBlank_of_isDigit (hdigits c hc)
  have hstrip : Text.strip (toString n).toList = (toString n).toList := by
    have hnone : ∀ c ∈ [], Text.isBlank c = true := by simp
    simpa using Text.strip_padded hnone hblank hnone
  rw [number?]
  simp only [hstrip, integer?_of_isDigit hdigits hsome hlength, Text.ofDigitChars_toString]

end Literal

namespace Epoch

-- The whole numbers that count time in a unit. In seconds these are the ones of ten digits.
def IsCountIn (n : Int) : TimeUnit → Prop
  | .seconds => 10 ^ 9 ≤ n ∧ n < 10 ^ 10
  | .milliseconds => 10 ^ 12 < n ∧ n ≤ 10 ^ 15
  | .microseconds => 10 ^ 15 < n ∧ n ≤ 10 ^ 18
  | .nanoseconds => 10 ^ 18 < n

variable {n : Int} {unit : TimeUnit}

theorem isPlausible_int_iff :
    isPlausible (.int n) = true ↔ 10 ^ 12 < n ∨ 10 ^ 9 ≤ n ∧ n < 10 ^ 10 := by
  have hle (a b : Int) : Number.le (.int a) (.int b) = decide (a ≤ b) := by
    simp [Number.le, Number.lt_int, Number.same, Number.extended?, Int.le_iff_lt_or_eq]
  simp only [isPlausible, Number.isNaN, millisecondLimit, Number.lt_int, hle, Bool.false_eq_true,
    if_false]
  grind

theorem unitOf_int : unitOf (.int n) =
    if (10 : Int) ^ 18 < n.natAbs then .nanoseconds
    else if (10 : Int) ^ 15 < n.natAbs then .microseconds
    else if (10 : Int) ^ 12 < n.natAbs then .milliseconds else .seconds := by
  simp only [unitOf, Number.abs, nanosecondLimit, microsecondLimit, millisecondLimit, Number.lt_int,
    decide_eq_true_eq]
  rfl

theorem isCountIn_iff :
    IsCountIn n unit ↔ isPlausible (.int n) = true ∧ unitOf (.int n) = unit := by
  rw [isPlausible_int_iff, unitOf_int]
  cases unit <;> simp only [IsCountIn] <;> grind

theorem millis_of_isCountIn (h : IsCountIn n unit) : millis n = n * unit.nanos / 1000000 := by
  obtain ⟨hcounts, hunit⟩ := isCountIn_iff.mp h
  rw [millis, if_pos hcounts, hunit]

-- All that count time come to lie among the milliseconds, or on the limit below them.
theorem millis_bounds (h : IsCountIn n unit) : 10 ^ 12 ≤ millis n ∧
    (millis n ≤ 10 ^ 15 ↔ n < 10 ^ 21 + 10 ^ 6) := by
  rw [millis_of_isCountIn h]
  cases unit <;> simp only [IsCountIn, TimeUnit.nanos] at h ⊢ <;> omega

-- Milliseconds are left alone, and so is what does not count time.
theorem millis_eq_self_iff : millis n = n ↔ n ≤ 10 ^ 15 ∧ ¬ IsCountIn n .seconds := by
  by_cases hcounts : isPlausible (.int n) = true
  · have hcount : IsCountIn n (unitOf (.int n)) := isCountIn_iff.mpr ⟨hcounts, rfl⟩
    rw [millis_of_isCountIn hcount]
    cases hunit : unitOf (.int n) <;> rw [hunit] at hcount <;>
      simp only [IsCountIn, TimeUnit.nanos] at hcount ⊢ <;> omega
  · rw [millis, if_neg hcounts]
    simp only [isPlausible_int_iff] at hcounts
    simp only [IsCountIn, true_iff]
    omega

theorem millis_millis_iff : millis (millis n) = millis n ↔ n < 10 ^ 21 + 10 ^ 6 := by
  rw [millis_eq_self_iff]
  by_cases hcounts : isPlausible (.int n) = true
  · have hbounds := millis_bounds (isCountIn_iff.mpr ⟨hcounts, rfl⟩)
    rw [hbounds.2, IsCountIn]
    omega
  · rw [millis, if_neg hcounts]
    simp only [isPlausible_int_iff] at hcounts
    simp only [IsCountIn]
    omega

end Epoch

namespace Cell

theorem coerceTime_int (dates : DateReader) (n : Int) :
    (int n).coerceTime dates = .ok (.int (Epoch.millis n)) :=
  coerceTime_eq dates (.inr ⟨n, rfl⟩)

-- A text that reads as a number that counts time is put where the number is.
theorem coerceTime_text (dates : DateReader) {s : String} {n : Int}
    (hread : Literal.number? s.toList = some (.int n))
    (hcounts : Epoch.isPlausible (.int n) = true) :
    (text s).coerceTime dates = (int n).coerceTime dates := by
  simp only [coerceTime, number?, hread, hcounts, if_true]

-- What a whole number becomes on an axis of time becomes nothing else there. A number that counts
-- time lies between the limits of the milliseconds then, where its unit puts it, and so does its
-- text. All other numbers stay where they are.
theorem coerceTime_coerceTime (dates : DateReader) {n : Int} (h : n ≤ 10 ^ 21) : ∃ m : Int,
    (int n).coerceTime dates = .ok (.int m) ∧ (int m).coerceTime dates = .ok (.int m) ∧
      (Epoch.isPlausible (.int n) = false → m = n) ∧
      (Epoch.isPlausible (.int n) = true → 10 ^ 12 ≤ m ∧ m ≤ 10 ^ 15 ∧
        m = n * (Epoch.unitOf (.int n)).nanos / 1000000 ∧
        (text (toString n)).coerceTime dates = .ok (.int m)) := by
  refine ⟨Epoch.millis n, coerceTime_int dates n, ?_, ?_, ?_⟩
  · rw [coerceTime_int, Epoch.millis_millis_iff.mpr (by omega)]
  · intro hcounts
    rw [Epoch.millis, if_neg (by simp [hcounts])]
  · intro hcounts
    have hcount := Epoch.isCountIn_iff.mpr ⟨hcounts, rfl⟩
    obtain ⟨hlow, hhigh⟩ := Epoch.millis_bounds hcount
    refine ⟨hlow, hhigh.mpr (by omega), Epoch.millis_of_isCountIn hcount, ?_⟩
    obtain ⟨k, rfl⟩ : ∃ k : Nat, n = k := by
      have hpositive := Epoch.isPlausible_int_iff.mp hcounts
      exact Int.eq_ofNat_of_zero_le (by omega)
    have hk : k < 10 ^ Literal.maxDigits := by
      have hle : k ≤ 10 ^ 21 := by exact_mod_cast h
      exact hle.trans_lt (Nat.pow_lt_pow_right (by decide) (by decide))
    exact (coerceTime_text dates (Literal.number?_toString hk) hcounts).trans
      (coerceTime_int dates k)

-- The first count of microseconds comes to lie on the lower limit of the milliseconds, where it
-- counts time no longer and so stays.
theorem coerceTime_coerceTime_firstMicrosecond :
    (int 1000000000000001).coerceTime (.on ⟨2024, 3, 13⟩) = .ok (.int 1000000000000) ∧
      (text "1000000000000001").coerceTime (.on ⟨2024, 3, 13⟩) = .ok (.int 1000000000000) ∧
      (int 1000000000000).coerceTime (.on ⟨2024, 3, 13⟩) = .ok (.int 1000000000000) ∧
      Epoch.isPlausible (.int 1000000000000) = false := by
  obtain ⟨m, hput, hagain, -, hcount⟩ := coerceTime_coerceTime (.on ⟨2024, 3, 13⟩)
    (show (1000000000000001 : Int) ≤ 10 ^ 21 by decide)
  obtain ⟨-, -, hm, htext⟩ := hcount (by decide)
  obtain rfl : m = 1000000000000 := hm
  exact ⟨hput, htext, hagain, by decide⟩

end Cell

end TimePanel
