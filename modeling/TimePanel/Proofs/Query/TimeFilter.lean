import Mathlib.Tactic.Ring
import TimePanel.Proofs.Query.Report

/-! What the numbers that a window of time puts into a query select: the ticks between its ends, and
buckets of an interval. -/

namespace TimePanel

namespace TimeBounds

variable {column : String} {schema : Option ColumnDescriptor}

-- How many buckets of a number of seconds it takes to cover the window; the last one may reach
-- past its end.
def buckets (bounds : TimeBounds) (seconds : Int) : Int :=
  -(-bounds.durationMillis / (seconds * 1000))

theorem buckets_le_iff (bounds : TimeBounds) {seconds : Int} (h : 0 < seconds) (count : Int) :
    bounds.buckets seconds ≤ count ↔ bounds.durationMillis ≤ seconds * 1000 * count := by
  have hmillis : 0 < seconds * 1000 := by omega
  have hcount : bounds.buckets seconds ≤ count ↔
      -count ≤ -bounds.durationMillis / (seconds * 1000) := by
    rw [buckets]
    omega
  rw [hcount, Int.le_ediv_iff_mul_le hmillis, Int.neg_mul, Int.neg_le_neg_iff, Int.mul_comm]

-- Rounding down twice is rounding down once.
theorem interval_eq (bounds : TimeBounds) {maxPoints : Int} (h : 0 < maxPoints) :
    bounds.interval maxPoints =
      .ok (max 1 (bounds.durationMillis / (1000 * maxPoints))) := by
  have hfloor : Int.fdiv (Int.fdiv bounds.durationMillis maxPoints) 1000 =
      bounds.durationMillis / (1000 * maxPoints) := by
    rw [Int.fdiv_eq_ediv_of_nonneg _ (Int.le_of_lt h), Int.fdiv_eq_ediv_of_nonneg _ (by decide),
      Int.ediv_ediv_of_nonneg (Int.le_of_lt h), Int.mul_comm]
  rw [interval, if_neg (by omega), hfloor]

-- An interval keeps to the number of points if one second is enough, or if nothing is rounded off.
-- Otherwise it is a second too short: the next longer one would keep to it, and the buckets that
-- it takes are at most twice as many as the points.
theorem interval_keeps_maxPoints_iff (bounds : TimeBounds) {maxPoints : Int} (h : 0 < maxPoints) :
    ∃ seconds, bounds.interval maxPoints = .ok seconds ∧ 1 ≤ seconds ∧
      (bounds.buckets seconds ≤ maxPoints ↔
        bounds.durationMillis ≤ seconds * 1000 * maxPoints) ∧
      (bounds.buckets seconds ≤ maxPoints ↔
        bounds.durationMillis ≤ 1000 * maxPoints ∨ 1000 * maxPoints ∣ bounds.durationMillis) ∧
      bounds.buckets (seconds + 1) ≤ maxPoints ∧ bounds.buckets seconds ≤ 2 * maxPoints := by
  have hsecond : 0 < 1000 * maxPoints := by omega
  obtain ⟨seconds, hseconds⟩ :
      ∃ seconds, seconds = max 1 (bounds.durationMillis / (1000 * maxPoints)) := ⟨_, rfl⟩
  have hone : 1 ≤ seconds := hseconds ▸ Int.le_max_left _ _
  have hfloor : bounds.durationMillis / (1000 * maxPoints) ≤ seconds :=
    hseconds ▸ Int.le_max_right _ _
  -- What a number of seconds covers grows with it.
  have hcovers {fewer more : Int} (hmore : fewer ≤ more) :
      fewer * (1000 * maxPoints) ≤ more * (1000 * maxPoints) :=
    Int.mul_le_mul_of_nonneg_right hmore (Int.le_of_lt hsecond)
  have hnext : bounds.durationMillis ≤ (seconds + 1) * (1000 * maxPoints) :=
    Int.le_trans (Int.le_of_lt (Int.lt_ediv_add_one_mul_self bounds.durationMillis hsecond))
      (hcovers (by omega))
  refine ⟨seconds, hseconds ▸ bounds.interval_eq h, hone, bounds.buckets_le_iff (by omega) _,
    ?_, ?_, ?_⟩
  · rw [bounds.buckets_le_iff (by omega), Int.mul_assoc]
    constructor
    · intro hcovered
      rcases Int.le_total (bounds.durationMillis / (1000 * maxPoints)) 1 with hshort | hlong
      · rw [hseconds, Int.max_eq_left hshort, Int.one_mul] at hcovered
        exact .inl hcovered
      · rw [hseconds, Int.max_eq_right hlong] at hcovered
        have hexact := Int.le_antisymm hcovered (Int.ediv_mul_le _ (Int.ne_of_gt hsecond))
        exact .inr (Dvd.intro_left _ hexact.symm)
    · rintro (hshort | hexact)
      · have hcovered := hcovers hone
        rw [Int.one_mul] at hcovered
        exact Int.le_trans hshort hcovered
      · rw [← Int.ediv_mul_cancel hexact]
        exact hcovers hfloor
  · rwa [bounds.buckets_le_iff (by omega), Int.mul_assoc]
  · have hdouble := hcovers (show seconds + 1 ≤ 2 * seconds by omega)
    have htwice : seconds * 1000 * (2 * maxPoints) = 2 * seconds * (1000 * maxPoints) := by ring
    rw [bounds.buckets_le_iff (by omega), htwice]
    exact Int.le_trans hnext hdouble

-- The last hour in a thousand points, and two seconds less a millisecond in a single one.
theorem interval_keeps_maxPoints_iff_hour :
    (0 : Int) < 1000 ∧ TimeBounds.interval ⟨⟨0⟩, ⟨3600000000000⟩⟩ 1000 = .ok 3 ∧
      TimeBounds.buckets ⟨⟨0⟩, ⟨3600000000000⟩⟩ 3 = 1200 ∧
      ¬ TimeBounds.buckets ⟨⟨0⟩, ⟨3600000000000⟩⟩ 3 ≤ 1000 ∧
      TimeBounds.buckets ⟨⟨0⟩, ⟨3600000000000⟩⟩ 4 ≤ 1000 := by
  have hpoints : (0 : Int) < 1000 := by decide
  have hseconds : TimeBounds.interval ⟨⟨0⟩, ⟨3600000000000⟩⟩ 1000 = .ok 3 := by decide +kernel
  obtain ⟨seconds, hfound, -, -, hkeeps, hnext, -⟩ :=
    interval_keeps_maxPoints_iff ⟨⟨0⟩, ⟨3600000000000⟩⟩ hpoints
  obtain rfl := Except.ok.inj (hseconds.symm.trans hfound)
  exact ⟨hpoints, hseconds, by decide, mt hkeeps.mp (by decide), hnext⟩

theorem interval_exceeds_maxPoints :
    TimeBounds.interval ⟨⟨0⟩, ⟨1999000000⟩⟩ 1 = .ok 1 ∧
      TimeBounds.buckets ⟨⟨0⟩, ⟨1999000000⟩⟩ 1 = 2 ∧
      ¬ TimeBounds.durationMillis ⟨⟨0⟩, ⟨1999000000⟩⟩ ≤ 1 * 1000 * 1 := by
  decide +kernel

end TimeBounds

namespace Interpolation

variable {env : Surroundings} {context : QueryContext} {query : List Char} {now : Instant}
  {result : Interpolation} {low high : Int} {clause : String}

end Interpolation

namespace TimeColumn

open Interpolation

variable {column : String} {schema : Option ColumnDescriptor}

def declared : ColumnDescriptor := ⟨"ts_ms", "bigint", some .microseconds, none⟩

end TimeColumn

end TimePanel
