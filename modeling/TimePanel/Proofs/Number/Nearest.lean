import TimePanel.Proofs.Number.Binary64

/-! How the nearest float of a number compares with a limit that is itself a float: only numbers
just above the limit lose their distance to it. -/

namespace TimePanel

namespace Rounding

variable {q : Rat} {n : Int}

theorem le_nearest (h : (n : Rat) ≤ q) : n ≤ nearest q := by
  have hfloor : n ≤ q.floor := Rat.le_floor_iff.mpr h
  simp only [nearest]
  split
  · exact hfloor
  · split
    · omega
    · split <;> omega

-- An even number is nearest up to the half above it.
theorem nearest_le_iff_of_even (h : n % 2 = 0) : nearest q ≤ n ↔ q ≤ n + 1 / 2 := by
  have hfloor : (q.floor : Rat) ≤ q := Rat.floor_le q
  rcases lt_trichotomy q.floor n with hlt | heq | hgt
  · have hle : q ≤ n := by
      have hceil : q - 1 < q.floor := Rat.lt_floor
      have hnext : (q.floor : Rat) + 1 ≤ n := by exact_mod_cast hlt
      linarith
    exact iff_of_true (nearest_le hle) (by linarith)
  · simp only [nearest, heq, h, if_true]
    constructor
    · intro hle
      by_contra hhalf
      rw [if_neg (by linarith), if_pos (by linarith)] at hle
      omega
    · intro hle
      by_cases hpart : q - n < 1 / 2
      · rw [if_pos hpart]
      · rw [if_neg hpart, if_neg (by linarith)]
  · have hnext : ((n + 1 : Int) : Rat) ≤ q := le_trans (by exact_mod_cast hgt) hfloor
    have hle := le_nearest hnext
    push_cast at hnext
    exact iff_of_false (by omega) (by linarith)

theorem power_two_eq {a b : Int} {n : Nat} (h : b = a + n) : power 2 b = 2 ^ n * power 2 a := by
  rw [h, power_two_add, power_eq_zpow 2 n, zpow_natCast, mul_comm]
  rfl

end Rounding

namespace Binary64

open Rounding

variable {q limit : Rat} {order : Int}

-- The value of a finite result. A significand that is rounded up to the next power of two stands
-- for the same value with the next exponent.
theorem toRat?_ofMagnitude {magnitude : Rat} {exponent : Int} (hpos : 0 < magnitude)
    (hexponent : max (binaryOrder magnitude - 52) minExponent = exponent)
    (hfinite : (ofMagnitude false magnitude).isInfinite = false) :
    (ofMagnitude false magnitude).toRat? =
      some ((nearest (magnitude / power 2 exponent)).toNat * power 2 exponent) := by
  simp only [ofMagnitude, if_neg hpos.ne', hexponent] at hfinite ⊢
  generalize (nearest (magnitude / power 2 exponent)).toNat = significand at hfinite ⊢
  by_cases hfull : significand = significandBound
  · have hcarry : leastFull * power 2 (exponent + 1) = significandBound * power 2 exponent := by
      have htwice : power 2 1 = 2 := by decide
      have hbound : (significandBound : Rat) = leastFull * 2 := by decide +kernel
      rw [power_two_add, htwice, hbound]
      ring
    simp only [hfull, if_true] at hfinite ⊢
    by_cases hmax : maxExponent < exponent + 1
    · simp [hmax, isInfinite] at hfinite
    · simp [hmax, toRat?, hcarry]
  · simp only [hfull, if_false] at hfinite ⊢
    by_cases hmax : maxExponent < exponent
    · simp [hmax, isInfinite] at hfinite
    · simp [hmax, toRat?]

-- The nearest float of a number that is neither small nor too large.
theorem toRat?_ofRat (hone : 1 ≤ q) (hmax : q ≤ maxFinite) : (ofRat q).toRat? =
    some (nearest (q / power 2 (binaryOrder q - 52)) * power 2 (binaryOrder q - 52)) := by
  have hpos : 0 < q := by linarith
  have horder : 0 < binaryOrder q + 1 := by
    apply lt_of_power_two_lt
    calc power 2 0 = 1 := by decide
      _ ≤ q := hone
      _ < power 2 (binaryOrder q + 1) := (binaryOrder_bounds hpos).2
  have hexponent : max (binaryOrder q - 52) minExponent = binaryOrder q - 52 := by
    simp only [minExponent]
    omega
  have hnearest : 0 ≤ nearest (q / power 2 (binaryOrder q - 52)) := by
    have hunit := power_two_pos (binaryOrder q - 52)
    apply le_nearest
    push_cast
    positivity
  have hcast : (((nearest (q / power 2 (binaryOrder q - 52))).toNat : Int) : Rat) =
      nearest (q / power 2 (binaryOrder q - 52)) := by
    rw [Int.toNat_of_nonneg hnearest]
  rw [ofRat, if_neg (by linarith),
    toRat?_ofMagnitude hpos hexponent (isInfinite_ofMagnitude hpos.le hmax), ← hcast]
  rfl

-- A float with an even significand, between the two powers of two of its order.
def IsEvenAt (order : Int) (limit : Rat) : Prop :=
  ∃ half : Int, 2 ^ 51 ≤ half ∧ half < 2 ^ 52 ∧ limit = half * power 2 (order - 51)

theorem IsEvenAt.bounds (h : IsEvenAt order limit) :
    power 2 order ≤ limit ∧ limit + power 2 (order - 51) ≤ power 2 (order + 1) := by
  obtain ⟨half, hlow, hhigh, rfl⟩ := h
  have hunit := power_two_pos (order - 51)
  have hlow : (2 : Rat) ^ 51 ≤ half := by exact_mod_cast hlow
  have hhigh : (half : Rat) + 1 ≤ 2 ^ 52 := by exact_mod_cast hhigh
  rw [power_two_eq (show order = order - 51 + 51 by omega),
    power_two_eq (show order + 1 = order - 51 + 52 by omega), ← add_one_mul]
  exact ⟨mul_le_mul_of_nonneg_right hlow hunit.le, mul_le_mul_of_nonneg_right hhigh hunit.le⟩

-- The float of a number is beyond such a limit exactly if the number is by more than half the
-- distance to the next float.
theorem lt_ofRat_iff (hlimit : IsEvenAt order limit) (hone : 1 ≤ q) (hmax : q ≤ maxFinite) :
    ∃ value, (ofRat q).toRat? = some value ∧
      (limit < value ↔ limit + power 2 (order - 53) < q) := by
  refine ⟨_, toRat?_ofRat hone hmax, ?_⟩
  obtain ⟨hfrom, hto⟩ := binaryOrder_bounds (show 0 < q by linarith)
  obtain ⟨hlow, hhigh⟩ := hlimit.bounds
  generalize binaryOrder q = own at hfrom hto ⊢
  have hunit := power_two_pos (own - 52)
  have hhalf := power_two_pos (order - 53)
  rcases lt_trichotomy own order with hlt | rfl | hgt
  · -- the number and its float are not beyond the power of two where the order of the limit begins
    have hle := power_two_le (show own + 1 ≤ order by omega)
    rw [power_two_eq (show own + 1 = own - 52 + 53 by omega)] at hto hle
    have hnearest : nearest (q / power 2 (own - 52)) ≤ 2 ^ 53 := by
      apply nearest_le
      rw [div_le_iff₀ hunit]
      exact_mod_cast hto.le
    have hvalue : (nearest (q / power 2 (own - 52)) : Rat) * power 2 (own - 52) ≤
        2 ^ 53 * power 2 (own - 52) :=
      mul_le_mul_of_nonneg_right (by exact_mod_cast hnearest) hunit.le
    exact iff_of_false (by linarith) (by linarith)
  · obtain ⟨half, -, -, rfl⟩ := hlimit
    have heven : (half * power 2 (own - 51) : Rat) = (2 * half : Int) * power 2 (own - 52) := by
      rw [power_two_eq (show own - 51 = own - 52 + 1 by omega)]
      push_cast
      ring
    have hhalfUnit : power 2 (own - 52) = 2 * power 2 (own - 53) :=
      power_two_eq (n := 1) (by omega)
    rw [heven, mul_lt_mul_iff_left₀ hunit, Int.cast_lt, ← not_le,
      nearest_le_iff_of_even (Int.mul_emod_right 2 half), div_le_iff₀ hunit, not_le, hhalfUnit]
    constructor <;> intro h <;> linarith
  · -- they are not below the power of two at which the next order begins
    have hle := power_two_le (show order + 1 ≤ own by omega)
    rw [power_two_eq (show own = own - 52 + 52 by omega)] at hfrom hle
    have hnearest : 2 ^ 52 ≤ nearest (q / power 2 (own - 52)) := by
      apply le_nearest
      rw [le_div_iff₀ hunit]
      exact_mod_cast hfrom
    have hvalue : 2 ^ 52 * power 2 (own - 52) ≤
        (nearest (q / power 2 (own - 52)) : Rat) * power 2 (own - 52) :=
      mul_le_mul_of_nonneg_right (by exact_mod_cast hnearest) hunit.le
    have hless := power_two_eq (show order - 51 = order - 53 + 2 by omega)
    exact iff_of_true (by linarith) (by linarith)

end Binary64

end TimePanel
