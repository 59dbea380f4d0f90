import TimePanel.Chart.Synthesis
import TimePanel.Proofs.Chart.Bars
import TimePanel.Proofs.Number.Binary64
import TimePanel.Proofs.TimeRange.Bounds

/-! The analysis of a result fails only on whole numbers that are too large to compute with or too
long to be written. -/

namespace TimePanel

open Fault

namespace Number

-- Whether a number is a whole one beyond the greatest finite float.
def IsTooLarge : Number → Prop
  | .int n => Binary64.ofInt? n = none
  | .float _ => False

instance : DecidablePred IsTooLarge
  | .int n => inferInstanceAs (Decidable (Binary64.ofInt? n = none))
  | .float _ => inferInstanceAs (Decidable False)

theorem fails_toFloat_iff {n : Number} : Fails n.toFloat ↔ n.IsTooLarge := by
  cases n with
  | int n =>
      rw [toFloat, IsTooLarge]
      cases Binary64.ofInt? n with
      | none => simp [fails_error]
      | some x => simp [not_fails_ok]
  | float x => simp [toFloat, IsTooLarge, not_fails_ok]

theorem not_isTooLarge {n : Number} {x : Binary64} (h : n.toFloat = .ok x) : ¬ n.IsTooLarge := by
  rw [← fails_toFloat_iff, h]
  exact not_fails_ok x

-- Whether a number has a fraction as a float. Infinity and not-a-number count as having one.
def hasFraction (n : Number) : Bool := n.toFloat.toOption.any (!·.isWhole)

variable {numbers : List Number}

-- The search for a fraction fails at a whole number that is too large, unless it ends before it.
theorem fails_anyFraction_iff :
    Fails (Analysis.anyFraction numbers) ↔
      ∃ n ∈ numbers.takeWhile (!·.hasFraction), n.IsTooLarge := by
  induction numbers with
  | nil => simp [Analysis.anyFraction, not_fails_ok]
  | cons n rest ih =>
      rw [Analysis.anyFraction, fails_bind_iff, List.takeWhile_cons, hasFraction]
      cases hn : n.toFloat with
      | error fault =>
          have hlarge : n.IsTooLarge := fails_toFloat_iff.mp ⟨fault, hn⟩
          simp [Except.toOption, hlarge, fails_error]
      | ok x =>
          cases hwhole : x.isWhole with
          | true => simp [Except.toOption, hwhole, not_isTooLarge hn, not_fails_ok, ih]
          | false => simp [Except.toOption, hwhole, not_fails_ok, pure, Except.pure]

-- A list of numbers up to its first float.
theorem eq_wholes_or (numbers : List Number) :
    (∃ values : List Int, numbers = values.map .int) ∨
      ∃ (values : List Int) (x : Binary64) (rest : List Number),
        numbers = values.map .int ++ .float x :: rest := by
  induction numbers with
  | nil => exact .inl ⟨[], rfl⟩
  | cons n rest ih =>
      cases n with
      | float x => exact .inr ⟨[], x, rest, rfl⟩
      | int n =>
          rcases ih with ⟨values, rfl⟩ | ⟨values, x, others, rfl⟩
          · exact .inl ⟨n :: values, rfl⟩
          · exact .inr ⟨n :: values, x, others, rfl⟩

theorem float_add (x : Binary64) (n : Number) :
    add (.float x) n = n.toFloat.map fun y => .float (x.add y) := by
  cases n <;> rfl

theorem add_float (n : Number) (x : Binary64) :
    add n (.float x) = n.toFloat.map fun y => .float (y.add x) := by
  cases n with
  | int n =>
      simp only [add, toFloat]
      cases Binary64.ofInt? n <;> rfl
  | float y => rfl

theorem fails_foldlM_add_float (x : Binary64) :
    Fails (numbers.foldlM add (.float x)) ↔ ∃ n ∈ numbers, n.IsTooLarge := by
  induction numbers generalizing x with
  | nil => simp [pure, Except.pure, not_fails_ok]
  | cons n rest ih =>
      rw [List.foldlM_cons, fails_bind_iff, float_add, List.exists_mem_cons_iff]
      cases hn : n.toFloat with
      | error fault =>
          have hlarge : n.IsTooLarge := fails_toFloat_iff.mp ⟨fault, hn⟩
          simp [Except.map, hlarge, fails_error]
      | ok y => simp [Except.map, not_isTooLarge hn, not_fails_ok, ih]

theorem exists_foldlM_add_float {x : Binary64} {total : Number}
    (h : numbers.foldlM add (.float x) = .ok total) : ∃ y, total = .float y := by
  induction numbers generalizing x with
  | nil => exact ⟨x, (Except.ok.inj h).symm⟩
  | cons n rest ih =>
      rw [List.foldlM_cons, bind_eq_ok_iff] at h
      obtain ⟨next, hnext, hrest⟩ := h
      rw [float_add, map_eq_ok_iff] at hnext
      obtain ⟨y, -, rfl⟩ := hnext
      exact ih hrest

-- The ways in which the mean of numbers cannot be computed: the mean of whole numbers is too large
-- for a float, or their total is when the first float joins it, or a whole number after that.
inductive MeanOverflows : List Number → Prop
  | quotient {values : List Int}
      (h : (Binary64.ofRat (mkRat values.sum values.length)).isInfinite = true) :
      MeanOverflows (values.map .int)
  | total {values : List Int} {x : Binary64} {rest : List Number}
      (h : IsTooLarge (.int values.sum)) : MeanOverflows (values.map .int ++ .float x :: rest)
  | later {values : List Int} {x : Binary64} {rest : List Number}
      (h : ∃ n ∈ rest, n.IsTooLarge) : MeanOverflows (values.map .int ++ .float x :: rest)

theorem fails_mean_int {total : Int} {count : Nat} :
    Fails (mean (.int total) count) ↔ (Binary64.ofRat (mkRat total count)).isInfinite = true := by
  unfold mean
  dsimp only
  split
  · next negative hvalue => simp [hvalue, Binary64.isInfinite, fails_error]
  · next hvalue =>
    refine ⟨fun h => absurd h (not_fails_ok _), fun h => ?_⟩
    cases hquotient : Binary64.ofRat (mkRat total count) with
    | infinite negative => exact absurd hquotient (hvalue negative)
    | nan => simp [hquotient, Binary64.isInfinite] at h
    | finite negative significand exponent => simp [hquotient, Binary64.isInfinite] at h

-- The sum of numbers among which there are floats.
theorem fails_sum_float {values : List Int} {x : Binary64} {rest : List Number} :
    Fails (sum (values.map .int ++ .float x :: rest)) ↔
      IsTooLarge (.int values.sum) ∨ ∃ n ∈ rest, n.IsTooLarge := by
  rw [sum, List.foldlM_append, foldlM_add_int, Int.zero_add, bind_of_eq_ok rfl, List.foldlM_cons,
    fails_bind_iff, add_float, fails_map_iff, fails_toFloat_iff]
  cases hn : toFloat (.int values.sum) with
  | error fault =>
      have hlarge : IsTooLarge (.int values.sum) := fails_toFloat_iff.mp ⟨fault, hn⟩
      simp [hlarge]
  | ok y => simp [Except.map, not_isTooLarge hn, fails_foldlM_add_float]

theorem exists_sum_float {values : List Int} {x : Binary64} {rest : List Number} {total : Number}
    (h : sum (values.map .int ++ .float x :: rest) = .ok total) : ∃ y, total = .float y := by
  rw [sum, List.foldlM_append, foldlM_add_int, bind_of_eq_ok rfl, List.foldlM_cons,
    bind_eq_ok_iff] at h
  obtain ⟨next, hnext, hrest⟩ := h
  rw [add_float, map_eq_ok_iff] at hnext
  obtain ⟨y, -, rfl⟩ := hnext
  exact exists_foldlM_add_float hrest

theorem fails_mean_sum_iff :
    Fails (do mean (← sum numbers) numbers.length) ↔ MeanOverflows numbers := by
  constructor
  · intro hfails
    rcases eq_wholes_or numbers with ⟨values, rfl⟩ | ⟨values, x, rest, rfl⟩
    · rw [sum_int, bind_of_eq_ok rfl, List.length_map, fails_mean_int] at hfails
      exact .quotient hfails
    · rcases fails_bind_iff.mp hfails with hsum | ⟨total, hsum, hmean⟩
      · rcases fails_sum_float.mp hsum with htotal | hlater
        · exact .total htotal
        · exact .later hlater
      · obtain ⟨y, rfl⟩ := exists_sum_float hsum
        exact absurd hmean (not_fails_ok _)
  · intro hoverflows
    cases hoverflows with
    | quotient h =>
        rw [sum_int, bind_of_eq_ok rfl, List.length_map]
        exact fails_mean_int.mpr h
    | total h => exact fails_bind_iff.mpr (.inl (fails_sum_float.mpr (.inl h)))
    | later h => exact fails_bind_iff.mpr (.inl (fails_sum_float.mpr (.inr h)))

end Number

namespace Epoch

-- The numbers that count when the unit of a column is inferred.
def positives (numbers : List Number) : List Number :=
  numbers.filter fun n => (Number.int 0).lt n

theorem fails_unitOfAll_iff {numbers : List Number} :
    Fails (unitOfAll numbers) ↔ Number.MeanOverflows (positives numbers) := by
  rw [← Number.fails_mean_sum_iff, unitOfAll, ← positives]
  split
  · next hempty =>
    rw [List.isEmpty_iff.mp hempty]
    exact ⟨fun h => absurd h (not_fails_ok _), fun h => absurd h (not_fails_ok _)⟩
  · rw [fails_bind_iff, fails_bind_iff]
    have hunit (mean : Binary64) : ¬ Fails (if (Number.int 1000000000).lt (.float mean) then
        return unitOf (.float mean) else return .milliseconds : Except Fault TimeUnit) := by
      split
      · exact not_fails_ok _
      · exact not_fails_ok _
    simp only [fails_bind_iff_of_total hunit]

end Epoch

namespace Cell

-- Whether a value has to be written to be told apart, and holds a number that is too long for that.
def IsUnwritten (cell : Cell) : Prop := cell.isScalar = false ∧ cell.isWritable = false

instance (cell : Cell) : Decidable cell.IsUnwritten := inferInstanceAs (Decidable (_ ∧ _))

theorem fails_countDistinct_iff {cells : List Cell} :
    Fails (countDistinct cells) ↔ ∃ cell ∈ cells, cell.IsUnwritten := by
  have hidentity (cell : Cell) : Fails cell.identity ↔ cell.IsUnwritten := by
    unfold identity IsUnwritten
    cases cell.isScalar with
    | true => simp [not_fails_ok]
    | false => cases cell.isWritable <;> simp [fails_error, not_fails_ok]
  unfold countDistinct
  rw [fails_bind_iff_of_total fun _ => not_fails_pure _, fails_mapM_iff]
  simp only [hidentity]

end Cell

namespace Analysis

variable {settings : Settings} {dates : DateReader} {name : String} {cells : List Cell}
variable {numbers : List Number}

theorem not_fails_looksLikeDate (hdates : dates.FailsOnValues) (cell : Cell) :
    ¬ Fails (looksLikeDate dates cell) := by
  unfold looksLikeDate
  split
  · exact not_fails_ok _
  · exact not_fails_ok _
  · exact not_fails_ok _
  · dsimp only
    split
    · split
      · exact not_fails_ok _
      · next fault hfault =>
        rw [if_pos (hdates.free _ fault hfault)]
        exact not_fails_ok _
    · exact not_fails_ok _
  · exact not_fails_ok _

theorem not_fails_mostlyDates (hdates : dates.FailsOnValues) :
    ¬ Fails (mostlyDates settings dates cells) := by
  unfold mostlyDates
  rw [fails_bind_iff_of_total fun _ => not_fails_pure _, fails_mapM_iff]
  rintro ⟨cell, -, hcell⟩
  exact not_fails_looksLikeDate hdates cell hcell

theorem fails_epochUnit?_iff :
    Fails (epochUnit? numbers) ↔
      numbers.any Epoch.isPlausible = true ∧ Number.MeanOverflows (Epoch.positives numbers) := by
  unfold epochUnit?
  split
  · next hepoch => simp [fails_map_iff, Epoch.fails_unitOfAll_iff, hepoch]
  · next hepoch => simp [not_fails_ok, hepoch]

theorem fails_classifyDeclared_iff {column : ColumnDescriptor} :
    Fails (classifyDeclared column numbers) ↔
      SemanticType.ofDatabase column.dataType ∈ [.integer, .bigint] ∧
        isTimeName column.name = true ∧ numbers.any Epoch.isPlausible = true ∧
        Number.MeanOverflows (Epoch.positives numbers) := by
  rw [← fails_epochUnit?_iff]
  unfold classifyDeclared
  dsimp only
  split
  · next hnamed =>
    rw [fails_bind_iff_of_total]
    · exact ⟨fun h => ⟨by simpa using hnamed.1, hnamed.2, h⟩, fun h => h.2.2⟩
    · rintro (_ | inferred)
      · exact not_fails_pure _
      · exact not_fails_pure _
  · next hnamed =>
    refine ⟨fun h => absurd h (not_fails_pure _), ?_⟩
    rintro ⟨htype, hname, -⟩
    exact absurd ⟨by simpa using htype, hname⟩ hnamed

theorem fails_classifyNumbers_iff :
    Fails (classifyNumbers name numbers) ↔
      (∃ n ∈ numbers.takeWhile (!·.hasFraction), n.IsTooLarge) ∨
        (isTimeName name = true ∨ numbers.any Epoch.isPlausible = true) ∧
          Number.MeanOverflows (Epoch.positives numbers) := by
  have htime (semantic : SemanticType) : Fails (if isTimeName name ∨ numbers.any Epoch.isPlausible
      then do return ⟨semantic, true, some (← Epoch.unitOfAll numbers)⟩
      else return ⟨semantic, false, none⟩ : Except Fault Classification) ↔
      (isTimeName name = true ∨ numbers.any Epoch.isPlausible = true) ∧
        Number.MeanOverflows (Epoch.positives numbers) := by
    split
    · next hnamed =>
      rw [fails_bind_iff_of_total fun _ => not_fails_pure _, Epoch.fails_unitOfAll_iff]
      simp only [hnamed, true_and]
    · next hnamed => exact iff_of_false (not_fails_pure _) fun h => hnamed h.1
  rw [← Number.fails_anyFraction_iff]
  unfold classifyNumbers
  exact fails_bind_iff_or fun _ => htime _

-- The whole numbers in the cells of a column that are too large to tell how it is shown.
inductive Overflows (name : String) (cells : List Cell) : Option ColumnDescriptor → Prop
  | declared {column : ColumnDescriptor}
      (htype : SemanticType.ofDatabase column.dataType ∈ [.integer, .bigint])
      (hname : isTimeName column.name = true)
      (hepoch : (cells.filterMap Cell.number?).any Epoch.isPlausible = true)
      (hmean : Number.MeanOverflows (Epoch.positives (cells.filterMap Cell.number?))) :
      Overflows name cells (some column)
  | fraction (hnumbers : ∀ cell ∈ cells, cell.number?.isSome = true)
      (hlarge : ∃ n ∈ (cells.filterMap Cell.number?).takeWhile (!·.hasFraction), n.IsTooLarge) :
      Overflows name cells none
  | mean (hnumbers : ∀ cell ∈ cells, cell.number?.isSome = true)
      (htime : isTimeName name = true ∨ (cells.filterMap Cell.number?).any Epoch.isPlausible = true)
      (hmean : Number.MeanOverflows (Epoch.positives (cells.filterMap Cell.number?))) :
      Overflows name cells none

theorem fails_classifyUndeclared_iff (hdates : dates.FailsOnValues) :
    Fails (classifyUndeclared settings dates name cells) ↔ Overflows name cells none := by
  have hlength : (cells.filterMap Cell.number?).length = cells.length ↔
      ∀ cell ∈ cells, cell.number?.isSome = true := List.filterMap_length_eq_length
  unfold classifyUndeclared
  dsimp only
  split
  · next hnumbers =>
    rw [hlength] at hnumbers
    rw [fails_classifyNumbers_iff]
    constructor
    · rintro (hlarge | ⟨htime, hmean⟩)
      · exact .fraction hnumbers hlarge
      · exact .mean hnumbers htime hmean
    · rintro (_ | ⟨-, hlarge⟩ | ⟨-, htime, hmean⟩)
      · exact .inl hlarge
      · exact .inr ⟨htime, hmean⟩
  · next hnumbers =>
    rw [hlength] at hnumbers
    refine iff_of_false ?_ (fun h => ?_)
    · split
      · exact not_fails_pure _
      · rw [fails_bind_iff_of_total]
        · exact not_fails_mostlyDates hdates
        · intro found
          split
          · exact not_fails_pure _
          · exact not_fails_pure _
    · cases h with
      | fraction hall => exact hnumbers hall
      | mean hall => exact hnumbers hall

-- Whether the analysis of a column fails: by its sample, or by a value that cannot be counted.
def ColumnOverflows (settings : Settings) (name : String) (values : List Cell)
    (hint : Option ColumnDescriptor) : Prop :=
  let present := values.filter (!·.isNull)
  Overflows name (sample settings.sampleSize present) hint ∨ ∃ cell ∈ present, cell.IsUnwritten

theorem mem_of_mem_sample {size : Int} {cell : Cell} (h : cell ∈ sample size cells) :
    cell ∈ cells := by
  unfold sample at h
  split at h
  · exact List.mem_of_mem_take h
  · exact List.mem_of_mem_take h

-- Telling how a column is shown counts cells that are counted again for the whole column.
theorem fails_shown {kind : Classification} (h : Fails (shown kind cells)) :
    ∃ cell ∈ cells, cell.IsUnwritten := by
  rw [← Cell.fails_countDistinct_iff]
  unfold shown at h
  split at h
  · exact absurd h (not_fails_pure _)
  · split at h
    · exact absurd h (not_fails_pure _)
    · rwa [fails_bind_iff_of_total] at h
      intro count
      split
      · exact not_fails_pure _
      · exact not_fails_pure _

theorem not_overflows_nil (name : String) (hint : Option ColumnDescriptor) :
    ¬ Overflows name [] hint := by
  have hmean : ¬ Number.MeanOverflows (Epoch.positives ([].filterMap Cell.number?)) := by
    rw [← Epoch.fails_unitOfAll_iff]
    exact not_fails_pure _
  intro h
  cases h with
  | declared _ _ _ h => exact hmean h
  | fraction _ hlarge => simp at hlarge
  | mean _ _ h => exact hmean h

-- What is done with a column of whatever kind once the kind is told.
theorem fails_describe_iff {kinds : Except Fault Classification} {present : List Cell} {size : Int}
    {make : Classification → FieldRole × ContentType → Nat → FieldInfo} :
    Fails (do
        let kind ← kinds
        let role ← shown kind (sample size present)
        let count ← Cell.countDistinct present
        return make kind role count) ↔
      Fails kinds ∨ ∃ cell ∈ present, cell.IsUnwritten := by
  rw [← Cell.fails_countDistinct_iff]
  refine fails_bind_iff_or fun kind => ?_
  rw [fails_bind_iff_or fun _ => fails_bind_iff_of_total fun _ => not_fails_pure _]
  refine or_iff_right_of_imp fun h => ?_
  obtain ⟨cell, hcell, hunwritten⟩ := fails_shown h
  exact Cell.fails_countDistinct_iff.mpr ⟨cell, mem_of_mem_sample hcell, hunwritten⟩

theorem fails_fieldOf_iff (hdates : dates.FailsOnValues) {values : List Cell}
    {hint : Option ColumnDescriptor} :
    Fails (fieldOf settings dates name values hint) ↔
      ColumnOverflows settings name values hint := by
  unfold fieldOf ColumnOverflows
  dsimp only
  generalize values.filter (!·.isNull) = present
  split
  · next hempty =>
    have hnil : sample settings.sampleSize ([] : List Cell) = [] := by
      unfold sample
      split <;> simp
    obtain rfl := List.isEmpty_iff.mp hempty
    rw [hnil]
    refine iff_of_false (not_fails_pure _) ?_
    simp [not_overflows_nil]
  · cases hint with
    | none =>
        rw [← fails_classifyUndeclared_iff hdates]
        exact fails_describe_iff
    | some column =>
        have hdeclared : Overflows name (sample settings.sampleSize present) (some column) ↔
            Fails (classifyDeclared column
              ((sample settings.sampleSize present).filterMap Cell.number?)) := by
          rw [fails_classifyDeclared_iff]
          constructor
          · rintro ⟨htype, hname, hepoch, hmean⟩
            exact ⟨htype, hname, hepoch, hmean⟩
          · rintro ⟨htype, hname, hepoch, hmean⟩
            exact .declared htype hname hepoch hmean
        rw [hdeclared]
        exact fails_describe_iff

variable {rows : List Row} {hints : List ColumnDescriptor}

theorem fails_fields_iff (hdates : dates.FailsOnValues) :
    Fails (fields settings dates rows hints) ↔
      ∃ name ∈ columnNames rows,
        ColumnOverflows settings name (rows.map (·.get name)) (hint? hints name) := by
  unfold fields
  rw [fails_mapM_iff]
  simp only [fails_fieldOf_iff hdates]

end Analysis

namespace Number

def modestSize : Nat := 10 ^ 300

def modestCount : Nat := 10 ^ 8

-- Whether a number is a float or a whole number of at most 300 digits.
def IsModest : Number → Prop
  | .int n => n.natAbs < modestSize
  | .float _ => True

instance : DecidablePred IsModest
  | .int n => inferInstanceAs (Decidable (n.natAbs < modestSize))
  | .float _ => inferInstanceAs (Decidable True)

theorem modest_le_maxFinite : ((modestCount * modestSize : Nat) : Rat) ≤ Binary64.maxFinite := by
  decide +kernel

theorem abs_le_maxFinite_of_modest {n : Int} (h : n.natAbs ≤ modestCount * modestSize) :
    |(n : Rat)| ≤ Binary64.maxFinite := by
  refine le_trans ?_ modest_le_maxFinite
  rw [← Int.cast_abs, Int.abs_eq_natAbs]
  exact_mod_cast h

theorem not_isTooLarge_of_le {n : Int} (h : n.natAbs ≤ modestCount * modestSize) :
    ¬ IsTooLarge (.int n) := by
  have hfinite := Binary64.isInfinite_ofRat (abs_le_maxFinite_of_modest h)
  unfold IsTooLarge Binary64.ofInt?
  cases hvalue : Binary64.ofRat n with
  | infinite negative => simp [hvalue, Binary64.isInfinite] at hfinite
  | nan => simp [hvalue]
  | finite negative significand exponent => simp [hvalue]

theorem IsModest.not_isTooLarge {n : Number} (h : n.IsModest) : ¬ n.IsTooLarge := by
  cases n with
  | int n => exact not_isTooLarge_of_le (h.le.trans (Nat.le_mul_of_pos_left _ (by decide)))
  | float x => exact id

theorem natAbs_sum_le {values : List Int} {bound : Nat} (h : ∀ n ∈ values, n.natAbs ≤ bound) :
    values.sum.natAbs ≤ values.length * bound := by
  induction values with
  | nil => simp
  | cons n rest ih =>
      obtain ⟨hn, hrest⟩ := List.forall_mem_cons.mp h
      have htotal := ih hrest
      have hsum := Int.natAbs_add_le n rest.sum
      rw [List.sum_cons, List.length_cons, Nat.add_mul]
      omega

-- A hundred million numbers of 300 digits have a mean.
theorem not_meanOverflows (h : ∀ n ∈ numbers, n.IsModest) (hcount : numbers.length ≤ modestCount) :
    ¬ MeanOverflows numbers := by
  have hsum {values : List Int} (hvalues : ∀ n ∈ values, IsModest (.int n))
      (hlength : values.length ≤ modestCount) :
      values.sum.natAbs ≤ modestCount * modestSize :=
    (natAbs_sum_le fun n hn => (hvalues n hn).le).trans (Nat.mul_le_mul_right _ hlength)
  intro hoverflows
  cases hoverflows with
  | @quotient values hquotient =>
      have htotal := hsum (fun n hn => h _ (List.mem_map_of_mem hn)) (by simpa using hcount)
      have hsize : |mkRat values.sum values.length| ≤ Binary64.maxFinite := by
        refine le_trans ?_ (abs_le_maxFinite_of_modest htotal)
        rw [Rat.mkRat_eq_div, abs_div, Nat.abs_cast]
        rcases Nat.eq_zero_or_pos values.length with hzero | hpos
        · simp [hzero]
        · exact div_le_self (abs_nonneg _) (by exact_mod_cast hpos)
      rw [Binary64.isInfinite_ofRat hsize] at hquotient
      cases hquotient
  | @total values x rest htotal =>
      refine not_isTooLarge_of_le (hsum (fun n hn => ?_) ?_) htotal
      · exact h (.int n) (List.mem_append_left _ (List.mem_map_of_mem hn))
      · simp only [List.length_append, List.length_map] at hcount
        omega
  | later hlater =>
      obtain ⟨n, hn, hlarge⟩ := hlater
      exact (h n (List.mem_append_right _ (List.mem_cons_of_mem _ hn))).not_isTooLarge hlarge

end Number

-- Whether a cell holds no number, in itself or in its parts, that is out of the ordinary.
def Cell.IsModest (cell : Cell) : Prop :=
  ¬ cell.IsUnwritten ∧ ∀ n ∈ cell.number?, n.IsModest

instance (cell : Cell) : Decidable cell.IsModest := inferInstanceAs (Decidable (_ ∧ _))

theorem Row.isModest_get {row : Row} (h : ∀ entry ∈ row, entry.2.IsModest) (name : String) :
    (row.get name).IsModest := by
  unfold Row.get
  cases hfound : row.lookup name with
  | none => exact ⟨fun hnull => Bool.noConfusion hnull.1, nofun⟩
  | some cell =>
      obtain ⟨before, after, rfl, -⟩ := List.lookup_eq_some_iff.mp hfound
      exact h (name, cell) (by simp)

namespace Analysis

variable {env : Surroundings} {settings : Settings} {dates : DateReader} {rows : List Row}
variable {hints : List ColumnDescriptor}

theorem length_sample_le (size : Int) (cells : List Cell) :
    (sample size cells).length ≤ cells.length := by
  unfold sample
  split <;> simp

theorem not_columnOverflows {values : List Cell} (h : ∀ cell ∈ values, cell.IsModest)
    (hcount : values.length ≤ Number.modestCount) (name : String) (hint : Option ColumnDescriptor) :
    ¬ ColumnOverflows settings name values hint := by
  unfold ColumnOverflows
  dsimp only
  generalize hpresent : values.filter (!·.isNull) = present
  have hmem : ∀ cell ∈ present, cell.IsModest := by
    rintro cell hcell
    rw [← hpresent] at hcell
    exact h cell (List.mem_of_mem_filter hcell)
  have hlength : (sample settings.sampleSize present).length ≤ Number.modestCount := by
    have := length_sample_le settings.sampleSize present
    have : present.length ≤ values.length := hpresent ▸ List.length_filter_le _ _
    omega
  generalize hcells : sample settings.sampleSize present = cells at hlength
  have hnumbers : ∀ n ∈ cells.filterMap Cell.number?, n.IsModest := by
    intro n hn
    obtain ⟨cell, hcell, hnumber⟩ := List.mem_filterMap.mp hn
    rw [← hcells] at hcell
    exact (hmem cell (mem_of_mem_sample hcell)).2 n hnumber
  have hmean : ¬ Number.MeanOverflows (Epoch.positives (cells.filterMap Cell.number?)) := by
    apply Number.not_meanOverflows
    · intro n hn
      exact hnumbers n (List.mem_of_mem_filter hn)
    · exact ((List.length_filter_le _ _).trans (List.length_filterMap_le _ _)).trans hlength
  rintro (hoverflows | ⟨cell, hcell, hunwritten⟩)
  · cases hoverflows with
    | declared _ _ _ h => exact hmean h
    | fraction _ hlarge =>
        obtain ⟨n, hn, hlarge⟩ := hlarge
        exact (hnumbers n ((List.takeWhile_sublist _).subset hn)).not_isTooLarge hlarge
    | mean _ _ h => exact hmean h
  · exact (hmem cell hcell).1 hunwritten

-- The analysis fails exactly if some column has a sample whose whole numbers overflow, or a list
-- or an object with a number that is too long; then a chart that is chosen by it fails as well, and
-- only then. Whole numbers of ordinary size, in up to a hundred million rows, never get that far.
theorem fails_fields_iff_overflows (hdates : env.dates.FailsOnValues) (theme : Cell) :
    (Fails (fields env.settings env.dates rows hints) ↔
      ∃ name ∈ columnNames rows,
        ColumnOverflows env.settings name (rows.map (·.get name)) (hint? hints name)) ∧
    (Fails (ChartBuild.ofRows env rows .null hints theme) ↔
      Fails (fields env.settings env.dates rows hints)) ∧
    ((∀ row ∈ rows, ∀ entry ∈ row, entry.2.IsModest) → rows.length ≤ Number.modestCount →
      ∃ found, fields env.settings env.dates rows hints = .ok found) := by
  refine ⟨fails_fields_iff hdates, ?_, ?_⟩
  · exact fails_bind_iff_of_total fun _ => not_fails_pure _
  · intro hrows hcount
    rw [← not_fails_iff, fails_fields_iff hdates]
    rintro ⟨name, -, hoverflows⟩
    refine not_columnOverflows ?_ (by simpa using hcount) name _ hoverflows
    intro cell hcell
    obtain ⟨row, hrow, rfl⟩ := List.mem_map.mp hcell
    exact Row.isModest_get (hrows row hrow) name

-- Rows of one column.
def single (cells : List Cell) : List Row := cells.map fun cell => [("v", cell)]

-- Two numbers that are no larger than the greatest float have a total that is, when a float joins
-- them. Much smaller ones do no harm.
theorem fails_fields_iff_overflows_total :
    Fails (ChartBuild.ofRows .quiet
      (single [.int (10 ^ 308), .int (10 ^ 308), .float (.finite false 3 (-1))]) .null [] .null) ∧
    ∃ found, fields Surroundings.quiet.settings Surroundings.quiet.dates
      (single [.int (10 ^ 299), .text "17", .list [.null]]) [] = .ok found := by
  constructor
  · obtain ⟨hfields, hbuild, -⟩ := @fails_fields_iff_overflows .quiet
      (single [.int (10 ^ 308), .int (10 ^ 308), .float (.finite false 3 (-1))]) []
      Surroundings.failsOnValues_quiet .null
    refine hbuild.mpr (hfields.mpr ⟨"v", by decide +kernel, .inl (.mean ?_ ?_ ?_)⟩)
    · decide +kernel
    · decide +kernel
    · have hnumbers : Epoch.positives ((sample Surroundings.quiet.settings.sampleSize
          (((single [.int (10 ^ 308), .int (10 ^ 308), .float (.finite false 3 (-1))]).map
            (·.get "v")).filter (!·.isNull))).filterMap Cell.number?) =
          [10 ^ 308, 10 ^ 308].map Number.int ++ [.float (.finite false 3 (-1))] := by
        decide +kernel
      rw [hnumbers]
      exact .total (by decide +kernel)
  · obtain ⟨-, -, hmodest⟩ := @fails_fields_iff_overflows .quiet
      (single [.int (10 ^ 299), .text "17", .list [.null]]) [] Surroundings.failsOnValues_quiet
      .null
    have hcells : ∀ cell ∈ [Cell.int (10 ^ 299), .text "17", .list [.null]], cell.IsModest := by
      decide +kernel
    refine hmodest ?_ (by decide)
    intro row hrow entry hentry
    obtain ⟨cell, hcell, rfl⟩ := List.mem_map.mp hrow
    obtain rfl := List.mem_singleton.mp hentry
    exact hcells cell hcell

-- One number that is too large for a float is enough.
theorem fails_of_large :
    Surroundings.quiet.dates.FailsOnValues ∧
      fields Surroundings.quiet.settings Surroundings.quiet.dates (single [.int (10 ^ 400)]) [] =
        .error .integerTooLarge := by
  refine ⟨Surroundings.failsOnValues_quiet, ?_⟩
  decide +kernel

end Analysis

end TimePanel
