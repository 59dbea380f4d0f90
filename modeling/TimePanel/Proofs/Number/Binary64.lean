import Mathlib
import TimePanel.Number.Literal

/-! Rounding to the nearest float: which values stay finite, and how large the results are. -/

namespace TimePanel

namespace Rounding

theorem power_eq_zpow (base : Nat) (exponent : Int) :
    power base exponent = (base : ℚ) ^ exponent := by
  unfold power
  split
  · next hsign =>
    obtain ⟨n, rfl⟩ := Int.eq_ofNat_of_zero_le hsign
    simp
  · next hsign =>
    obtain ⟨n, hn⟩ := Int.eq_ofNat_of_zero_le (show 0 ≤ -exponent by omega)
    obtain rfl : exponent = -n := by omega
    simp

theorem power_two_pos (exponent : Int) : 0 < power 2 exponent := by
  rw [power_eq_zpow]
  positivity

theorem power_two_le {a b : Int} (h : a ≤ b) : power 2 a ≤ power 2 b := by
  simp only [power_eq_zpow, Nat.cast_ofNat]
  exact zpow_le_zpow_right₀ (by norm_num) h

theorem power_two_add (a b : Int) : power 2 (a + b) = power 2 a * power 2 b := by
  simp only [power_eq_zpow, Nat.cast_ofNat]
  exact zpow_add₀ (by norm_num) a b

theorem lt_of_power_two_lt {a b : Int} (h : power 2 a < power 2 b) : a < b := by
  by_contra hle
  exact absurd (power_two_le (not_lt.mp hle)) (not_le.mpr h)

theorem nearest_le {q : Rat} {n : Int} (h : q ≤ n) : nearest q ≤ n := by
  have hfloor : q.floor ≤ n := by exact_mod_cast (Rat.floor_le q).trans h
  rcases hfloor.lt_or_eq with hlt | heq
  · simp only [nearest]
    split
    · exact hlt.le
    · split <;> [omega; (split <;> omega)]
  · have hpart : q - (q.floor : Rat) < 1 / 2 := by
      rw [heq]
      linarith
    simp only [nearest, if_pos hpart]
    exact hfloor

theorem power_log2_bounds {n : Nat} (h : n ≠ 0) :
    power 2 n.log2 ≤ n ∧ (n : ℚ) < power 2 (n.log2 + 1) := by
  simp only [power_eq_zpow]
  exact ⟨by exact_mod_cast Nat.log2_self_le h, by exact_mod_cast @Nat.lt_log2_self n⟩

-- Numerator and denominator lie between two powers of two each, so their quotient lies between two
-- powers of which one is four times the other; the comparison tells which half it is in.
theorem binaryOrder_bounds {q : Rat} (h : 0 < q) :
    power 2 (binaryOrder q) ≤ q ∧ q < power 2 (binaryOrder q + 1) := by
  have hnum : 0 < q.num := Rat.num_pos.mpr h
  have hvalue : (q.num.toNat : ℚ) = q * q.den := by
    rw [Rat.mul_den_eq_num]
    exact_mod_cast Int.toNat_of_nonneg hnum.le
  obtain ⟨hnumLow, hnumHigh⟩ := power_log2_bounds (n := q.num.toNat) (by omega)
  obtain ⟨hdenLow, hdenHigh⟩ := power_log2_bounds q.den_nz
  have hden : (0 : ℚ) < q.den := by exact_mod_cast q.den_pos
  rw [hvalue] at hnumLow hnumHigh
  set guess : Int := (q.num.toNat.log2 : Int) - (q.den.log2 : Int) with hguess
  have hbelow : power 2 (guess - 1) ≤ q := by
    refine le_of_mul_le_mul_right ?_ hden
    calc power 2 (guess - 1) * q.den
        ≤ power 2 (guess - 1) * power 2 (q.den.log2 + 1) :=
          mul_le_mul_of_nonneg_left hdenHigh.le (power_two_pos _).le
      _ = power 2 q.num.toNat.log2 := by rw [← power_two_add, hguess]; congr 1; omega
      _ ≤ q * q.den := hnumLow
  have habove : q < power 2 (guess + 1) := by
    refine lt_of_mul_lt_mul_right ?_ hden.le
    calc q * q.den
        < power 2 (q.num.toNat.log2 + 1) := hnumHigh
      _ = power 2 (guess + 1) * power 2 q.den.log2 := by
          rw [← power_two_add, hguess]; congr 1; omega
      _ ≤ power 2 (guess + 1) * q.den :=
          mul_le_mul_of_nonneg_left hdenLow (power_two_pos _).le
  have horder : binaryOrder q = if power 2 guess ≤ q then guess else guess - 1 := rfl
  rw [horder]
  split
  · next hfits => exact ⟨hfits, habove⟩
  · next hfits => exact ⟨hbelow, by simpa using hfits⟩

end Rounding

namespace Binary64

open Rounding

-- Whether a float has at most 53 significant bits and an exponent in range.
def IsStandard : Binary64 → Prop
  | .finite _ significand exponent => significand < significandBound ∧ exponent ≤ maxExponent
  | _ => True

def maxFinite : Rat := (significandBound - 1 : Nat) * power 2 maxExponent

section Magnitudes

variable {negative : Bool} {magnitude : Rat}

-- The exponent that a magnitude is first tried with leaves room for all its bits and no more.
theorem scaled_le (h : 0 < magnitude) :
    magnitude / power 2 (max (binaryOrder magnitude - 52) minExponent) ≤
      (significandBound : Int) := by
  rw [div_le_iff₀ (power_two_pos _)]
  have hbound : (((significandBound : Nat) : Int) : ℚ) = power 2 53 := by
    rw [power_eq_zpow, significandBound]
    norm_num
  calc magnitude
      ≤ power 2 (binaryOrder magnitude + 1) := (binaryOrder_bounds h).2.le
    _ ≤ power 2 (53 + max (binaryOrder magnitude - 52) minExponent) :=
        power_two_le (by omega)
    _ = _ := by rw [power_two_add, hbound]

theorem isStandard_ofMagnitude (h : 0 ≤ magnitude) :
    (ofMagnitude negative magnitude).IsStandard := by
  unfold ofMagnitude
  split
  · exact ⟨by decide, by decide⟩
  · next hzero =>
    have hsignificand := nearest_le (scaled_le (lt_of_le_of_ne h (Ne.symm hzero)))
    dsimp only
    split
    · split
      · trivial
      · next hexponent =>
        exact ⟨show leastFull < significandBound by decide, not_lt.mp hexponent⟩
    · next hfull =>
      split
      · trivial
      · next hexponent =>
        refine ⟨?_, not_lt.mp hexponent⟩
        dsimp only at hfull ⊢
        omega

-- Whatever is not beyond the greatest finite float becomes a finite one.
theorem isInfinite_ofMagnitude (h : 0 ≤ magnitude) (hmax : magnitude ≤ maxFinite) :
    (ofMagnitude negative magnitude).isInfinite = false := by
  unfold ofMagnitude
  split
  · rfl
  · next hzero =>
    have hpos := lt_of_le_of_ne h (Ne.symm hzero)
    have horder : binaryOrder magnitude < 1024 := by
      apply lt_of_power_two_lt
      calc power 2 (binaryOrder magnitude)
          ≤ magnitude := (binaryOrder_bounds hpos).1
        _ ≤ maxFinite := hmax
        _ < power 2 1024 := by decide +kernel
    generalize hexponent : max (binaryOrder magnitude - 52) minExponent = exponent
    have hle : exponent ≤ maxExponent := by
      simp only [minExponent, maxExponent] at hexponent ⊢
      omega
    dsimp only
    split
    · next hfull =>
      -- rounding up to the next power of two needs an exponent below the greatest
      have hlt : exponent < maxExponent := by
        refine lt_of_le_of_ne hle ?_
        rintro rfl
        have hscaled : magnitude / power 2 maxExponent ≤ ((significandBound - 1 : Nat) : Int) := by
          rw [div_le_iff₀ (power_two_pos _)]
          exact hmax
        have := nearest_le hscaled
        simp only [significandBound] at this hfull
        omega
      rw [if_neg (by dsimp only; omega)]
      rfl
    · rw [if_neg (by dsimp only; omega)]
      rfl

theorem isNaN_ofMagnitude : (ofMagnitude negative magnitude).isNaN = false := by
  unfold ofMagnitude
  split
  · rfl
  · dsimp only
    split
    all_goals
      split
      · rfl
      · rfl

end Magnitudes

section Values

variable {q : Rat} {x : Binary64}

theorem isInfinite_ofRat (h : |q| ≤ maxFinite) : (ofRat q).isInfinite = false := by
  unfold ofRat
  split
  · next hneg => exact isInfinite_ofMagnitude (by linarith) (abs_of_neg hneg ▸ h)
  · next hneg =>
    exact isInfinite_ofMagnitude (not_lt.mp hneg) (abs_of_nonneg (not_lt.mp hneg) ▸ h)

theorem isNaN_ofRat (q : Rat) : (ofRat q).isNaN = false := by
  unfold ofRat
  split
  · exact isNaN_ofMagnitude
  · exact isNaN_ofMagnitude

theorem abs_le_maxFinite (h : x.IsStandard) (hq : x.toRat? = some q) : |q| ≤ maxFinite := by
  cases x with
  | nan => cases hq
  | infinite negative => cases hq
  | finite negative significand exponent =>
      obtain ⟨hsignificand, hexponent⟩ := h
      have hmagnitude : (significand : ℚ) * power 2 exponent ≤ maxFinite := by
        apply mul_le_mul
        · exact_mod_cast Nat.le_pred_of_lt hsignificand
        · exact power_two_le hexponent
        · exact (power_two_pos _).le
        · positivity
      have hsign : |q| = |(significand : ℚ) * power 2 exponent| := by
        obtain rfl := Option.some.inj hq
        split
        · exact abs_neg _
        · rfl
      have hpos := power_two_pos exponent
      rwa [hsign, abs_of_nonneg (by positivity)]

-- A float that is neither infinite nor not-a-number rounds to a whole number.
theorem exists_round (hnan : x.isNaN = false) (hinfinite : x.isInfinite = false) :
    ∃ n, Number.round x = .ok n := by
  cases x with
  | nan => cases hnan
  | infinite negative => cases hinfinite
  | finite negative significand exponent => exact ⟨_, rfl⟩

-- Counting in smaller ticks keeps a float finite if the result is not beyond the greatest one.
theorem exists_round_scale {factor : Nat} (hq : x.toRat? = some q)
    (hmax : |q * factor| ≤ maxFinite) : ∃ n, Number.round (x.scale factor) = .ok n := by
  cases x with
  | nan => cases hq
  | infinite negative => cases hq
  | finite negative significand exponent =>
      unfold scale
      rw [hq]
      dsimp only [Option.getD_some]
      split
      · exact ⟨_, rfl⟩
      · exact exists_round (isNaN_ofRat _) (isInfinite_ofRat hmax)

theorem extended?_of_toRat? (hq : x.toRat? = some q) : x.extended? = some (.value q) := by
  cases x with
  | nan => cases hq
  | infinite negative => cases hq
  | finite negative significand exponent =>
      exact congrArg (Option.map Extended.value) hq

theorem toRat?_abs (hq : x.toRat? = some q) : x.abs.toRat? = some |q| := by
  cases x with
  | nan => cases hq
  | infinite negative => cases hq
  | finite negative significand exponent =>
      obtain rfl := Option.some.inj hq
      have hpos := power_two_pos exponent
      have hmagnitude : |(significand : ℚ) * power 2 exponent| = significand * power 2 exponent :=
        abs_of_nonneg (by positivity)
      cases negative with
      | true => simp [abs, toRat?, hmagnitude]
      | false => simp [abs, toRat?, hmagnitude]

end Values

end Binary64

namespace Number

open Binary64

-- Whether a number is a whole one or a float of the format.
def IsStandard : Number → Prop
  | .int _ => True
  | .float x => x.IsStandard

theorem lt_int_float {x : Binary64} {q : Rat} (hq : x.toRat? = some q) (k : Int) :
    lt (.int k) (.float x) = decide ((k : Rat) < q) := by
  simp [lt, extended?, extended?_of_toRat? hq, Extended.lt]

end Number

namespace Literal

open Binary64

theorem isStandard_ofDecimal (negative : Bool) (significand : Nat) (exponent : Int) :
    (ofDecimal negative significand exponent).IsStandard := by
  unfold ofDecimal
  split
  · exact ⟨by decide, by decide⟩
  · dsimp only
    split
    · trivial
    · split
      · exact ⟨by decide, by decide⟩
      · apply isStandard_ofMagnitude
        rw [Rounding.power_eq_zpow]
        positivity

theorem isStandard_float? {text : List Char} {x : Binary64} (h : float? text = some x) :
    x.IsStandard := by
  unfold float? at h
  dsimp only at h
  split at h
  · next named hnamed =>
    obtain rfl := Option.some.inj h
    unfold named? at hnamed
    dsimp only at hnamed
    split at hnamed
    · obtain rfl := Option.some.inj hnamed
      trivial
    · split at hnamed
      · obtain rfl := Option.some.inj hnamed
        trivial
      · cases hnamed
  · split at h
    · cases h
    · obtain ⟨exponent, -, rfl⟩ := Option.map_eq_some_iff.mp h
      exact isStandard_ofDecimal _ _ _

-- Whatever number a text holds, its float is one of the format.
theorem isStandard_number? {text : List Char} {n : Number} (h : number? text = some n) :
    n.IsStandard := by
  unfold number? at h
  dsimp only at h
  split at h
  · obtain rfl := Option.some.inj h
    trivial
  · obtain ⟨x, hx, rfl⟩ := Option.map_eq_some_iff.mp h
    exact isStandard_float? hx

end Literal

end TimePanel
