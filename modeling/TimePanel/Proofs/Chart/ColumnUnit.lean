import TimePanel.Proofs.Chart.Analysis
import TimePanel.Proofs.Chart.Coherence
import TimePanel.Proofs.Chart.Rescaling
import TimePanel.Proofs.Number.Nearest

/-! The unit that is inferred for a column from the mean of its numbers, against the unit in which
each of them is taken. -/

namespace TimePanel

open Fault

namespace Binary64

theorem abs_ofRat {q : Rat} (h : 0 ≤ q) : (ofRat q).abs = ofRat q := by
  rw [ofRat, if_neg (not_lt.mpr h)]
  unfold ofMagnitude
  split
  · rfl
  · dsimp only
    split
    all_goals
      split
      · rfl
      · rfl

end Binary64

theorem Number.mean_int {total : Int} {count : Nat}
    (h : (Binary64.ofRat (mkRat total count)).isInfinite = false) :
    mean (.int total) count = .ok (.ofRat (mkRat total count)) := by
  rw [mean]
  cases hvalue : Binary64.ofRat (mkRat total count) with
  | infinite negative => simp [hvalue, Binary64.isInfinite] at h
  | nan => rfl
  | finite negative significand exponent => rfl

namespace Epoch

-- The limits above which a mean is counted in a unit.
def limit : TimeUnit → Nat
  | .seconds => 10 ^ 9
  | .milliseconds => 10 ^ 12
  | .microseconds => 10 ^ 15
  | .nanoseconds => 10 ^ 18

-- Half the distance from a limit to the next float.
def slack : TimeUnit → Rat
  | .seconds => 1 / 2 ^ 24
  | .milliseconds => 1 / 2 ^ 14
  | .microseconds => 1 / 2 ^ 4
  | .nanoseconds => 2 ^ 6

-- Whether a mean is above the limit of a unit by so much that its float is as well.
def Exceeds (mean : Rat) (unit : TimeUnit) : Prop := limit unit + slack unit < mean

instance (mean : Rat) (unit : TimeUnit) : Decidable (Exceeds mean unit) :=
  inferInstanceAs (Decidable (_ < mean))

theorem not_exceeds {q : Rat} (unit : TimeUnit) (h : q ≤ limit unit) : ¬ Exceeds q unit := by
  have hslack : 0 < slack unit := by cases unit <;> decide +kernel
  rw [Exceeds, not_lt]
  linarith

theorem exceeds_of_le {q : Rat} {unit other : TimeUnit} (hless : limit unit < limit other)
    (h : limit other ≤ q) : Exceeds q unit := by
  refine lt_of_lt_of_le ?_ h
  cases unit <;> cases other <;> revert hless <;> decide +kernel

theorem isEvenAt_limit (unit : TimeUnit) :
    ∃ order, Binary64.IsEvenAt order (limit unit) ∧ Rounding.power 2 (order - 53) = slack unit := by
  cases unit with
  | seconds => exact ⟨29, ⟨10 ^ 9 * 2 ^ 22, by decide +kernel⟩, by decide +kernel⟩
  | milliseconds => exact ⟨39, ⟨10 ^ 12 * 2 ^ 12, by decide +kernel⟩, by decide +kernel⟩
  | microseconds => exact ⟨49, ⟨10 ^ 15 * 2 ^ 2, by decide +kernel⟩, by decide +kernel⟩
  | nanoseconds => exact ⟨59, ⟨10 ^ 18 / 2 ^ 8, by decide +kernel⟩, by decide +kernel⟩

-- The unit of a mean. One that is too small for any unit is taken for milliseconds.
def unitOfMean (mean : Rat) : TimeUnit :=
  if Exceeds mean .seconds then
    if Exceeds mean .nanoseconds then .nanoseconds
    else if Exceeds mean .microseconds then .microseconds
    else if Exceeds mean .milliseconds then .milliseconds
    else .seconds
  else .milliseconds

section Mean

variable {q : Rat} (hone : 1 ≤ q) (hmax : q ≤ Binary64.maxFinite)
include hone hmax

theorem limit_lt_iff (unit : TimeUnit) :
    (Number.int (limit unit)).lt (.float (.ofRat q)) = true ↔ Exceeds q unit := by
  obtain ⟨order, heven, hslack⟩ := isEvenAt_limit unit
  obtain ⟨value, hvalue, hlt⟩ := Binary64.lt_ofRat_iff heven hone hmax
  rw [Number.lt_int_float hvalue, decide_eq_true_iff, Exceeds, ← hslack, ← hlt]
  norm_cast

theorem unitOf_ofRat : (if (Number.int (limit .seconds)).lt (.float (.ofRat q))
    then unitOf (.float (.ofRat q)) else .milliseconds) = unitOfMean q := by
  have habs : Number.abs (.float (.ofRat q)) = .float (.ofRat q) :=
    congrArg Number.float (Binary64.abs_ofRat (by linarith))
  have hnanoseconds : nanosecondLimit = .int (limit .nanoseconds) := rfl
  have hmicroseconds : microsecondLimit = .int (limit .microseconds) := rfl
  have hmilliseconds : millisecondLimit = .int (limit .milliseconds) := rfl
  simp only [unitOf, habs, hnanoseconds, hmicroseconds, hmilliseconds, limit_lt_iff hone hmax,
    unitOfMean]

end Mean

variable {values : List Int} {unit : TimeUnit}

def mean (values : List Int) : Rat := values.sum / values.length

section Bounds

variable {bound : Int} (hne : values ≠ [])
include hne

theorem length_pos : (0 : Rat) < values.length := by
  exact_mod_cast List.length_pos_of_ne_nil hne

theorem le_mean (h : ∀ n ∈ values, bound ≤ n) : bound ≤ mean values := by
  have hsum : values.length * bound ≤ values.sum := by
    simpa using List.card_nsmul_le_sum values bound h
  rw [mean, le_div_iff₀ (length_pos hne), mul_comm]
  exact_mod_cast hsum

theorem mean_le (h : ∀ n ∈ values, n ≤ bound) : mean values ≤ bound := by
  have hsum : values.sum ≤ values.length * bound := by
    simpa using List.sum_le_card_nsmul values bound h
  rw [mean, div_le_iff₀ (length_pos hne), mul_comm]
  exact_mod_cast hsum

-- The mean is the least of the numbers only if there is no other.
theorem mean_eq_iff (h : ∀ n ∈ values, bound ≤ n) :
    mean values = bound ↔ ∀ n ∈ values, n = bound := by
  constructor
  · intro hmean
    by_contra! hother
    have hless : ∃ n ∈ values, bound < n :=
      hother.imp fun n hn => ⟨hn.1, lt_of_le_of_ne (h n hn.1) hn.2.symm⟩
    have hsum := List.sum_lt_sum (fun _ => bound) id h hless
    rw [mean, div_eq_iff (length_pos hne).ne'] at hmean
    have heq : values.sum = bound * values.length := by exact_mod_cast hmean
    simp [heq, mul_comm] at hsum
  · intro hall
    exact le_antisymm (mean_le hne fun n hn => (hall n hn).le) (le_mean hne h)

end Bounds

-- The unit of positive whole numbers is that of their exact mean.
theorem unitOfAll_int (hne : values ≠ []) (hpositive : ∀ n ∈ values, 0 < n)
    (hmax : mean values ≤ Binary64.maxFinite) :
    unitOfAll (values.map .int) = .ok (unitOfMean (mean values)) := by
  have hone : 1 ≤ mean values := by exact_mod_cast le_mean hne hpositive
  have hpositives : (values.map Number.int).filter (fun n => (Number.int 0).lt n) =
      values.map .int := by
    simpa [List.filter_eq_self, Number.lt_int] using hpositive
  have hfinite : (Binary64.ofRat (mean values)).isInfinite = false :=
    Binary64.isInfinite_ofRat (by rwa [abs_of_pos (by linarith)])
  have hmean : Number.mean (.int values.sum) values.length = .ok (.ofRat (mean values)) := by
    rw [mean, ← Rat.mkRat_eq_div] at hfinite ⊢
    exact Number.mean_int hfinite
  have hunit := unitOf_ofRat hone hmax
  simp only [unitOfAll, hpositives, Number.sum_int, List.length_map, List.isEmpty_map,
    List.isEmpty_iff, hne, if_false]
  rw [Fault.bind_of_eq_ok rfl, Fault.bind_of_eq_ok hmean, ← hunit]
  exact (apply_ite Except.ok _ _ _).symm

-- Whether a mean is so little above the limit of a unit that its float is not.
def IsRoundedOff (mean : Rat) (unit : TimeUnit) : Prop := limit unit < mean ∧ ¬ Exceeds mean unit

theorem eq_limit_iff {n : Int} (h : IsCountIn n unit) : n = limit unit ↔ n = 10 ^ 9 := by
  cases unit <;> simp only [IsCountIn, limit] at h ⊢ <;> omega

theorem limit_le {n : Int} (h : IsCountIn n unit) : limit unit ≤ n := by
  cases unit <;> simp only [IsCountIn, limit] at h ⊢ <;> omega

theorem le_limit {n : Int} {other : TimeUnit} (h : IsCountIn n unit)
    (hless : limit unit < limit other) : n ≤ limit other := by
  cases unit <;> cases other <;> simp only [IsCountIn, limit] at h hless ⊢ <;> omega

-- The mean of numbers that all count in one unit lies between the limits of that unit. It is
-- counted in it unless it comes too close to the lower one.
theorem unitOfMean_eq_iff (hne : values ≠ []) (hcount : ∀ n ∈ values, IsCountIn n unit) :
    unitOfMean (mean values) = unit ↔ Exceeds (mean values) unit := by
  have hbelow (other : TimeUnit) (hless : limit unit < limit other) :
      ¬ Exceeds (mean values) other :=
    not_exceeds other (mean_le hne fun n hn => le_limit (hcount n hn) hless)
  have habove (other : TimeUnit) (hless : limit other < limit unit) :
      Exceeds (mean values) other :=
    exceeds_of_le hless (le_mean hne fun n hn => limit_le (hcount n hn))
  unfold unitOfMean
  cases unit with
  | seconds =>
    simp [hbelow .milliseconds (by decide), hbelow .microseconds (by decide),
      hbelow .nanoseconds (by decide)]
  | milliseconds =>
    simp [habove .seconds (by decide), hbelow .microseconds (by decide),
      hbelow .nanoseconds (by decide)]
  | microseconds =>
    simp [habove .seconds (by decide), habove .milliseconds (by decide),
      hbelow .nanoseconds (by decide)]
  | nanoseconds =>
    simp [habove .seconds (by decide), habove .microseconds (by decide)]

-- The unit that is inferred from numbers that all count in one unit is that unit, unless none of
-- them is beyond its limit.
theorem unitOfAll_of_isCountIn (hne : values ≠ []) (hcount : ∀ n ∈ values, IsCountIn n unit)
    (hmax : mean values ≤ Binary64.maxFinite) (hclear : ¬ IsRoundedOff (mean values) unit) :
    unitOfAll (values.map .int) =
      .ok (if ∀ n ∈ values, n = 10 ^ 9 then .milliseconds else unit) := by
  have hlow : ∀ n ∈ values, limit unit ≤ n := fun n hn => limit_le (hcount n hn)
  have hpositive : ∀ n ∈ values, 0 < n := fun n hn =>
    lt_of_lt_of_le (by cases unit <;> decide) (hlow n hn)
  rw [unitOfAll_int hne hpositive hmax]
  split
  · next hall =>
    have hseconds : mean values ≤ limit .seconds := mean_le hne fun n hn => (hall n hn).le
    rw [unitOfMean, if_neg (not_exceeds .seconds hseconds)]
  · next hsome =>
    rw [(unitOfMean_eq_iff hne hcount).mpr]
    by_contra hexceeds
    have hle : mean values ≤ limit unit := not_lt.mp fun hlt => hclear ⟨hlt, hexceeds⟩
    have hall := (mean_eq_iff hne hlow).mp (le_antisymm hle (le_mean hne hlow))
    exact hsome fun n hn => (eq_limit_iff (hcount n hn)).mp (hall n hn)

end Epoch

namespace Analysis

variable (settings : Settings) (dates : DateReader) (name : String)
variable {values : List Int} {unit : TimeUnit}

-- A column of whole numbers any of which counts time has the unit that is inferred from them.
theorem classifyUndeclared_int (hcounts : ∃ n ∈ values, Epoch.isPlausible (.int n) = true)
    (hlarge : ∀ n ∈ values, ¬ Number.IsTooLarge (.int n))
    (hunit : Epoch.unitOfAll (values.map .int) = .ok unit) : ∃ semantic,
      classifyUndeclared settings dates name (values.map .int) =
        .ok ⟨semantic, true, some unit⟩ := by
  have hnumbers : (values.map Cell.int).filterMap Cell.number? = values.map .int := by
    rw [List.filterMap_map, ← List.filterMap_eq_map]
    rfl
  have hany : (values.map Number.int).any Epoch.isPlausible = true := by simpa using hcounts
  obtain ⟨fraction, hfraction⟩ : ∃ fraction,
      anyFraction (values.map .int) = .ok fraction := by
    rw [← not_fails_iff, Number.fails_anyFraction_iff]
    rintro ⟨n, hn, hlargest⟩
    obtain ⟨k, hk, rfl⟩ := List.mem_map.mp (List.takeWhile_subset _ hn)
    exact hlarge k hk hlargest
  refine ⟨if fraction then .float else .integer, ?_⟩
  rw [classifyUndeclared, hnumbers, if_pos (by simp), classifyNumbers, bind_of_eq_ok hfraction]
  simp only [hany, or_true, if_true, bind_of_eq_ok hunit]
  rfl

-- The field of an undeclared column that its sample shows to be temporal.
theorem exists_fieldOf {cells : List Cell} {semantic : SemanticType} {unit? : Option TimeUnit}
    (hne : sample settings.sampleSize (cells.filter (!·.isNull)) ≠ [])
    (hwritten : ∀ cell ∈ cells, ¬ cell.IsUnwritten)
    (hkind : classifyUndeclared settings dates name
      (sample settings.sampleSize (cells.filter (!·.isNull))) = .ok ⟨semantic, true, unit?⟩) :
    ∃ field, fieldOf settings dates name cells none = .ok field ∧ field.isTime = true ∧
      field.unit = unit? := by
  have hpresent : cells.filter (!·.isNull) ≠ [] := by
    intro hnone
    exact hne (by simp [hnone, sample])
  obtain ⟨cardinality, hcardinality⟩ : ∃ cardinality,
      Cell.countDistinct (cells.filter (!·.isNull)) = .ok cardinality := by
    rw [← not_fails_iff, Cell.fails_countDistinct_iff]
    rintro ⟨cell, hcell, hunwritten⟩
    exact hwritten cell (List.mem_of_mem_filter hcell) hunwritten
  exact ⟨_, fieldOf_eq_ok_iff.mpr (.inr ⟨hpresent, _, .dimension, .temporal, cardinality, hkind,
    rfl, hcardinality, rfl⟩), rfl, rfl⟩

-- A column of whole numbers that all count time in one unit is reported in it, and each of them is
-- put on the axis by it. Only a column all of whose numbers are the least one that counts seconds
-- is taken for milliseconds.
theorem unitOfAll_eq_unitOf (hne : values ≠ []) (hsize : ∀ n ∈ values, n < 10 ^ 300)
    (hcounts : ∀ n ∈ values, Epoch.isPlausible (.int n) = true)
    (hunit : ∀ n ∈ values, Epoch.unitOf (.int n) = unit)
    (hclear : ¬ Epoch.IsRoundedOff (Epoch.mean values) unit) :
    let inferred := if ∀ n ∈ values, n = 10 ^ 9 then .milliseconds else unit
    Epoch.unitOfAll (values.map .int) = .ok inferred ∧
      (∀ settings dates name cells,
        sample settings.sampleSize (cells.filter (!·.isNull)) = values.map .int →
        (∀ cell ∈ cells, ¬ cell.IsUnwritten) →
          ∃ field, fieldOf settings dates name cells none = .ok field ∧ field.isTime = true ∧
            field.unit = some inferred) ∧
      ∀ dates, ∀ n ∈ values,
        (Cell.int n).coerceTime dates = .ok (.int (n * unit.nanos / 1000000)) := by
  intro inferred
  have hcount : ∀ n ∈ values, Epoch.IsCountIn n unit := fun n hn =>
    Epoch.isCountIn_iff.mpr ⟨hcounts n hn, hunit n hn⟩
  have hmax : Epoch.mean values ≤ Binary64.maxFinite :=
    (Epoch.mean_le hne fun n hn => (hsize n hn).le).trans (by decide +kernel)
  have hinferred : Epoch.unitOfAll (values.map .int) = .ok inferred :=
    Epoch.unitOfAll_of_isCountIn hne hcount hmax hclear
  have hlarge : ∀ n ∈ values, ¬ Number.IsTooLarge (.int n) := by
    intro n hn
    have hn' := hsize n hn
    have hpositive := Epoch.isPlausible_int_iff.mp (hcounts n hn)
    apply Number.IsModest.not_isTooLarge
    simp only [Number.IsModest, Number.modestSize]
    omega
  refine ⟨hinferred, ?_, ?_⟩
  · intro settings dates name cells hsample hwritten
    obtain ⟨first, hfirst⟩ := List.exists_mem_of_ne_nil values hne
    obtain ⟨semantic, hkind⟩ := classifyUndeclared_int settings dates name
      ⟨first, hfirst, hcounts first hfirst⟩ hlarge hinferred
    rw [← hsample] at hkind
    exact exists_fieldOf settings dates name (by simpa [hsample] using hne) hwritten hkind
  · intro dates n hn
    rw [Cell.coerceTime_int, Epoch.millis_of_isCountIn (hcount n hn)]

-- One second more than the least in a column is enough. The empty cell between does not count.
def firstSeconds : List Cell := [.int 1000000000, .null, .int 1000000001]

theorem unitOfAll_eq_unitOf_firstSeconds :
    Epoch.unitOfAll [.int 1000000000, .int 1000000001] = .ok .seconds ∧
      (∃ field, fieldOf Settings.default (.on ⟨2024, 3, 13⟩) "t" firstSeconds none = .ok field ∧
        field.isTime = true ∧ field.unit = some .seconds) ∧
      (Cell.int 1000000000).coerceTime (.on ⟨2024, 3, 13⟩) = .ok (.int 1000000000000) ∧
      (Cell.int 1000000001).coerceTime (.on ⟨2024, 3, 13⟩) = .ok (.int 1000000001000) := by
  have hcounts : ∀ n ∈ [(1000000000 : Int), 1000000001], Epoch.isPlausible (.int n) = true := by
    decide
  have hseconds : ∀ n ∈ [(1000000000 : Int), 1000000001], Epoch.unitOf (.int n) = .seconds := by
    decide
  obtain ⟨hunit, hcolumn, hput⟩ := unitOfAll_eq_unitOf (List.cons_ne_nil _ _) (by decide +kernel)
    hcounts hseconds fun hoff => hoff.2 (by decide +kernel)
  exact ⟨hunit, hcolumn Settings.default (.on ⟨2024, 3, 13⟩) "t" firstSeconds rfl (by decide),
    hput _ _ (by simp), hput _ _ (by simp)⟩

-- The least number that counts seconds does not exceed the limit below which a mean is taken for
-- milliseconds, and the float of the first number of nanoseconds is the last one of microseconds.
theorem unitOfAll_ne_unitOf :
    (Epoch.unitOfAll [.int 1000000000] = .ok .milliseconds ∧
      Epoch.isPlausible (.int 1000000000) = true ∧
      Epoch.unitOf (.int 1000000000) = .seconds) ∧
    Epoch.unitOfAll [.int 1000000000000000001] = .ok .microseconds ∧
      Epoch.isPlausible (.int 1000000000000000001) = true ∧
      Epoch.unitOf (.int 1000000000000000001) = .nanoseconds := by
  decide +kernel

end Analysis

end TimePanel
