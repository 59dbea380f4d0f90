import Mathlib.Data.List.Chain
import TimePanel.Proofs.Zone.Offsets

/-! How clocks change: one change at a time, after which some wall times have been skipped or are
shown once more, and which offset such a wall time is read with. -/

namespace TimePanel

open Instant (secondsPerDay)

-- A change of the clocks, with the offsets that they show before and after it.
structure ClockChange where
  moment : Int
  before : Int
  after : Int
deriving DecidableEq

namespace ClockChange

-- Both offsets are less than a day.
structure IsWithinDay (change : ClockChange) : Prop where
  before : change.before.natAbs < secondsPerDay
  after : change.after.natAbs < secondsPerDay

variable (change : ClockChange)

-- Clocks that are set back show again what they showed just before the change.
def repeatedAt (second : Int) : Bool :=
  change.moment ≤ second && second < change.moment + (change.before - change.after)

-- The wall time at which the offset from after the change takes over. A wall time that is shown
-- twice has the offset of its first or its second pass. One that is skipped has the offset from
-- before the change, and for a second pass the one from after it.
def wallStart (repeated : Bool) : Int :=
  change.moment +
    (if repeated then min change.before change.after else max change.before change.after)

-- A clock that makes this change and no other.
def clock : Zone :=
  { name := "",
    offsetAt := fun second => if second < change.moment then change.before else change.after,
    repeatedAt := change.repeatedAt,
    wallOffset := fun wall repeated =>
      if wall < change.wallStart repeated then change.before else change.after }

variable {change}

theorem repeatedAt_eq_true_iff {second : Int} : change.repeatedAt second = true ↔
    change.moment ≤ second ∧ second < change.moment + (change.before - change.after) := by
  simp [repeatedAt]

-- Only clocks that are set back show anything again.
theorem repeatedAt_of_le (h : change.before ≤ change.after) (second : Int) :
    change.repeatedAt second = false := by
  rw [← Bool.not_eq_true, repeatedAt_eq_true_iff]
  omega

-- Nothing is shown again before the change, or two days after it.
theorem IsWithinDay.repeatedAt_of_far (h : change.IsWithinDay) {second : Int}
    (hfar : second < change.moment ∨ change.moment + 2 * secondsPerDay ≤ second) :
    change.repeatedAt second = false := by
  obtain ⟨hbefore, hafter⟩ := h
  rw [← Bool.not_eq_true, repeatedAt_eq_true_iff]
  omega

theorem IsWithinDay.wallStart_bounds (h : change.IsWithinDay) (repeated : Bool) :
    change.moment - secondsPerDay < change.wallStart repeated ∧
      change.wallStart repeated < change.moment + secondsPerDay := by
  obtain ⟨hbefore, hafter⟩ := h
  cases repeated <;> simp only [wallStart, Bool.false_eq_true, if_true, if_false] <;> omega

end ClockChange

namespace Zone

-- Clocks that show the same between two seconds, for moments and for wall times.
structure AgreesWith (zone other : Zone) (first last : Int) : Prop where
  offsetAt : ∀ second, first ≤ second → second ≤ last →
    zone.offsetAt second = other.offsetAt second
  repeatedAt : ∀ second, first ≤ second → second ≤ last →
    zone.repeatedAt second = other.repeatedAt second
  wallOffset : ∀ wall, first ≤ wall → wall ≤ last → ∀ repeated,
    zone.wallOffset wall repeated = other.wallOffset wall repeated

-- Clocks less than a day from universal time that change at most once within two days, and then
-- skip or repeat wall times by the rules for such a change.
structure FollowsFoldRules (zone : Zone) : Prop where
  isWithinDay : zone.IsWithinDay
  exists_change : ∀ moment, ∃ change : ClockChange,
    zone.AgreesWith change.clock (moment - secondsPerDay) (moment + secondsPerDay)

namespace AgreesWith

variable {zone other third : Zone} {change : ClockChange} {first last middle : Int}

theorem symm (h : zone.AgreesWith other first last) : other.AgreesWith zone first last where
  offsetAt second hge hle := (h.offsetAt second hge hle).symm
  repeatedAt second hge hle := (h.repeatedAt second hge hle).symm
  wallOffset wall hge hle repeated := (h.wallOffset wall hge hle repeated).symm

theorem trans (h : zone.AgreesWith other first last) (h' : other.AgreesWith third first last) :
    zone.AgreesWith third first last where
  offsetAt second hge hle := (h.offsetAt second hge hle).trans (h'.offsetAt second hge hle)
  repeatedAt second hge hle := (h.repeatedAt second hge hle).trans (h'.repeatedAt second hge hle)
  wallOffset wall hge hle repeated :=
    (h.wallOffset wall hge hle repeated).trans (h'.wallOffset wall hge hle repeated)

theorem mono (h : zone.AgreesWith other first last) {first' last' : Int} (hfirst : first ≤ first')
    (hlast : last' ≤ last) : zone.AgreesWith other first' last' where
  offsetAt second hge hle := h.offsetAt second (by omega) (by omega)
  repeatedAt second hge hle := h.repeatedAt second (by omega) (by omega)
  wallOffset wall hge hle := h.wallOffset wall (by omega) (by omega)

theorem append (h : zone.AgreesWith other first middle)
    (h' : zone.AgreesWith other (middle + 1) last) : zone.AgreesWith other first last where
  offsetAt second hge hle := by
    by_cases hmiddle : second ≤ middle
    · exact h.offsetAt second hge hmiddle
    · exact h'.offsetAt second (by omega) hle
  repeatedAt second hge hle := by
    by_cases hmiddle : second ≤ middle
    · exact h.repeatedAt second hge hmiddle
    · exact h'.repeatedAt second (by omega) hle
  wallOffset wall hge hle := by
    by_cases hmiddle : wall ≤ middle
    · exact h.wallOffset wall hge hmiddle
    · exact h'.wallOffset wall (by omega) hle

-- Two days away from its change, a clock keeps its offset.
theorem clock_before (hchange : change.IsWithinDay) (hlast : last + secondsPerDay ≤ change.moment) :
    change.clock.AgreesWith (fixed "" change.before) first last where
  offsetAt second _ hle := by
    simp only [secondsPerDay] at hlast
    exact if_pos (by omega)
  repeatedAt second _ hle := by
    simp only [secondsPerDay] at hlast
    exact hchange.repeatedAt_of_far (.inl (by omega))
  wallOffset wall _ hle repeated := by
    have hstart := (hchange.wallStart_bounds repeated).1
    exact if_pos (by omega)

theorem clock_after (hchange : change.IsWithinDay)
    (hfirst : change.moment + 2 * secondsPerDay ≤ first) :
    change.clock.AgreesWith (fixed "" change.after) first last where
  offsetAt second hge _ := by
    simp only [secondsPerDay] at hfirst
    exact if_neg (by omega)
  repeatedAt second hge _ := hchange.repeatedAt_of_far (.inr (by omega))
  wallOffset wall hge _ repeated := by
    have hstart := (hchange.wallStart_bounds repeated).2
    simp only [secondsPerDay] at hfirst hstart
    exact if_neg (by omega)

-- A change that leaves the offset as it is.
theorem fixed_clock (name : String) (offset moment : Int) :
    (fixed name offset).AgreesWith (ClockChange.clock ⟨moment, offset, offset⟩) first last where
  offsetAt second _ _ := (ite_self _).symm
  repeatedAt second _ _ := by
    exact (ClockChange.repeatedAt_of_le (Int.le_refl offset) second).symm
  wallOffset wall _ _ repeated := (ite_self _).symm

end AgreesWith

theorem followsFoldRules_fixed {offset : Int} (h : offset.natAbs < secondsPerDay)
    (name : String) : (fixed name offset).FollowsFoldRules where
  isWithinDay := isWithinDay_fixed h name
  exists_change _ := ⟨⟨0, offset, offset⟩, .fixed_clock name offset 0⟩

end Zone

namespace ZoneHistory

variable {initial before : Int} {change last : Change} {rest earlier changes : List Change}

-- What a list of changes alone says of a second, and of a wall time.
def placeIn (initial : Int) (changes : List Change) (second : Int) : Int × Bool :=
  match lastReached (fun _ change => change.moment ≤ second) initial changes with
  | some (before, change) => (change.offset, second - change.moment < before - change.offset)
  | none => (initial, false)

def wallOffsetIn (initial : Int) (changes : List Change) (wall : Int) (repeated : Bool) : Int :=
  match lastReached (fun before change => wallStart repeated before change ≤ wall) initial
    changes with
  | some (_, change) => change.offset
  | none => initial

def listed (initial : Int) (changes : List Change) : Zone :=
  { name := "", offsetAt := fun second => (placeIn initial changes second).1,
    repeatedAt := fun second => (placeIn initial changes second).2,
    wallOffset := wallOffsetIn initial changes }

-- All offsets are less than a day, and changes are five days apart or more.
structure IsApart (initial : Int) (changes : List Change) : Prop where
  initial : initial.natAbs < secondsPerDay
  offsets : ∀ change ∈ changes, change.offset.natAbs < secondsPerDay
  moments : changes.IsChain fun change next => change.moment + 5 * secondsPerDay ≤ next.moment

theorem IsApart.tail (h : IsApart initial (change :: rest)) : IsApart change.offset rest where
  initial := h.offsets change List.mem_cons_self
  offsets listed hlisted := h.offsets listed (List.mem_cons_of_mem _ hlisted)
  moments := h.moments.tail

theorem IsApart.isWithinDay (h : IsApart initial (change :: rest)) :
    ClockChange.IsWithinDay ⟨change.moment, initial, change.offset⟩ :=
  ⟨h.initial, h.tail.initial⟩

theorem wallStart_eq (repeated : Bool) : wallStart repeated before change =
    ClockChange.wallStart ⟨change.moment, before, change.offset⟩ repeated := rfl

theorem lastReached_eq_none {reached : Int → Change → Bool}
    (h : ∀ next ∈ changes.head?, reached before next = false) :
    lastReached reached before changes = none := by
  cases changes with
  | nil => rfl
  | cons next rest => rw [lastReached, h next rfl]; rfl

section

variable {first final : Int} (h : IsApart initial (change :: rest))
include h

-- While the change after the first one is still to come, the first one is all there is.
theorem listed_first (hnext : ∀ next ∈ rest.head?, final + secondsPerDay < next.moment) :
    (listed initial (change :: rest)).AgreesWith
      (ClockChange.clock ⟨change.moment, initial, change.offset⟩) first final := by
  have hplace : ∀ second ≤ final, placeIn initial (change :: rest) second =
      if change.moment ≤ second then
        (change.offset, decide (second - change.moment < initial - change.offset))
      else (initial, false) := by
    intro second hle
    have hnone : lastReached (fun _ change => change.moment ≤ second) change.offset rest =
        none := by
      apply lastReached_eq_none
      intro next hmem
      have hlater := hnext next hmem
      simp only [secondsPerDay] at hlater
      exact decide_eq_false (by omega)
    rw [placeIn, lastReached, hnone]
    by_cases hreached : change.moment ≤ second <;> simp [hreached]
  have hwall : ∀ wall ≤ final, ∀ repeated,
      wallOffsetIn initial (change :: rest) wall repeated =
        if wallStart repeated initial change ≤ wall then change.offset else initial := by
    intro wall hle repeated
    have hnone : lastReached (fun before change => wallStart repeated before change ≤ wall)
        change.offset rest = none := by
      apply lastReached_eq_none
      intro next hmem
      obtain ⟨later, rfl⟩ := List.head?_eq_some_iff.mp hmem
      have hlater := hnext next hmem
      have hstart := (h.tail.isWithinDay.wallStart_bounds repeated).1
      rw [← wallStart_eq] at hstart
      dsimp only at hstart
      exact decide_eq_false (by omega)
    rw [wallOffsetIn, lastReached, hnone]
    by_cases hreached : wallStart repeated initial change ≤ wall <;> simp [hreached]
  constructor
  · intro second _ hle
    simp only [listed, hplace second hle, ClockChange.clock]
    split <;> split <;> first | rfl | omega
  · intro second _ hle
    simp only [listed, hplace second hle, ClockChange.clock, ClockChange.repeatedAt]
    split
    · next hreached =>
        rw [decide_eq_true hreached, Bool.true_and, decide_eq_decide]
        omega
    · next hreached => rw [decide_eq_false hreached, Bool.false_and]
  · intro wall _ hle repeated
    refine (hwall wall hle repeated).trans ?_
    by_cases hreached : wallStart repeated initial change ≤ wall
    · rw [if_pos hreached]
      exact (if_neg (Int.not_lt.mpr hreached)).symm
    · rw [if_neg hreached]
      exact (if_pos (Int.not_le.mp hreached)).symm

-- Two days after the first change it is no longer seen.
theorem listed_rest (hfirst : change.moment + 2 * secondsPerDay ≤ first) :
    (listed initial (change :: rest)).AgreesWith (listed change.offset rest) first final := by
  have hinitial := h.initial
  have hoffset := h.tail.initial
  constructor
  · intro second hge _
    have hreached : change.moment ≤ second := by
      simp only [secondsPerDay] at hfirst
      omega
    simp only [listed, placeIn, lastReached, decide_eq_true hreached, if_true]
    cases lastReached (fun _ change => change.moment ≤ second) change.offset rest <;> rfl
  · intro second hge _
    have hreached : change.moment ≤ second := by
      simp only [secondsPerDay] at hfirst
      omega
    simp only [listed, placeIn, lastReached, decide_eq_true hreached, if_true]
    cases lastReached (fun _ change => change.moment ≤ second) change.offset rest with
    | some _ => rfl
    | none =>
        rw [Option.getD_none]
        dsimp only
        exact decide_eq_false (by omega)
  · intro wall hge _ repeated
    have hstart := (h.isWithinDay.wallStart_bounds repeated).2
    have hreached : wallStart repeated initial change ≤ wall := by
      rw [wallStart_eq]
      simp only [secondsPerDay] at hfirst hstart
      omega
    simp only [listed, wallOffsetIn, lastReached, decide_eq_true hreached, if_true]
    cases lastReached (fun before change => wallStart repeated before change ≤ wall)
      change.offset rest <;> rfl

end

-- The changes of a list are seen one at a time.
theorem exists_change_listed (h : IsApart initial changes) (moment : Int) :
    ∃ change : ClockChange, (listed initial changes).AgreesWith change.clock
      (moment - secondsPerDay) (moment + secondsPerDay) := by
  induction changes generalizing initial with
  | nil =>
      exact ⟨⟨0, initial, initial⟩, .fixed_clock "" initial 0⟩
  | cons change rest ih =>
      by_cases hnext : ∀ next ∈ rest.head?, moment + secondsPerDay + secondsPerDay < next.moment
      · exact ⟨_, listed_first h hnext⟩
      · simp only [not_forall] at hnext
        obtain ⟨next, hmem, hle⟩ := hnext
        obtain ⟨later, rfl⟩ := List.head?_eq_some_iff.mp hmem
        have hfar := (List.isChain_cons_cons.mp h.moments).1
        obtain ⟨other, hother⟩ := ih h.tail
        exact ⟨other, (listed_rest h (by omega)).trans hother⟩

-- The offset before the last of some changes.
def offsetBefore (initial : Int) (earlier : List Change) : Int :=
  earlier.getLast?.elim initial (·.offset)

-- From two days before the last change on, it is the only one.
theorem listed_last (h : IsApart initial (earlier ++ [last])) (final : Int) :
    (listed initial (earlier ++ [last])).AgreesWith
      (ClockChange.clock ⟨last.moment, offsetBefore initial earlier, last.offset⟩)
      (last.moment - 2 * secondsPerDay) final := by
  induction earlier generalizing initial with
  | nil => exact listed_first h (by simp)
  | cons change more ih =>
      have hbefore : offsetBefore initial (change :: more) = offsetBefore change.offset more := by
        cases more <;> rfl
      have hfar : change.moment + 5 * secondsPerDay ≤ last.moment := by
        have htrans : IsTrans Change fun change next =>
            change.moment + 5 * secondsPerDay ≤ next.moment :=
          ⟨fun a b c hab hbc => by simp only [secondsPerDay] at *; omega⟩
        have hpairs := List.isChain_iff_pairwise.mp h.moments
        exact (List.pairwise_cons.mp hpairs).1 last (by simp)
      rw [hbefore]
      refine (listed_rest h ?_).trans (ih h.tail)
      simp only [secondsPerDay] at hfar ⊢
      omega

section

variable {history : ZoneHistory} (hchanges : history.changes ≠ [])
include hchanges

-- Where no rule has taken over, the list alone decides.
theorem place_eq_placeIn {second : Int}
    (hlisted : ∀ rule, history.outlook = .yearly rule →
      history.isPast (fun _ change => change.moment < second) = false) :
    history.place second = placeIn history.initial history.changes second := by
  unfold place placeIn
  split
  · next rule houtlook hpast => simp [hlisted rule houtlook] at hpast
  · cases lastReached (fun _ change => change.moment ≤ second) history.initial
      history.changes with
    | some _ => rfl
    | none =>
        dsimp only
        split
        · next hnone _ => exact absurd hnone hchanges
        · rfl

theorem wallOffset_eq_wallOffsetIn {wall : Int} {repeated : Bool}
    (hlisted : ∀ rule, history.outlook = .yearly rule → history.isPast
      (fun before change => wallStart repeated before change < wall) = false) :
    history.wallOffset wall repeated =
      wallOffsetIn history.initial history.changes wall repeated := by
  unfold wallOffset wallOffsetIn
  split
  · next rule houtlook hpast => simp [hlisted rule houtlook] at hpast
  · cases lastReached (fun before change => wallStart repeated before change ≤ wall)
      history.initial history.changes with
    | some _ => rfl
    | none =>
        dsimp only
        split
        · next hnone _ => exact absurd hnone hchanges
        · rfl

theorem exists_change_of_constant {offset : Int} (houtlook : history.outlook = .constant offset)
    (h : IsApart history.initial history.changes) (name : String) (moment : Int) :
    ∃ change : ClockChange, (history.zone name).AgreesWith change.clock
      (moment - secondsPerDay) (moment + secondsPerDay) := by
  have hnever : ∀ rule, history.outlook ≠ .yearly rule := by simp [houtlook]
  have hlisted : (history.zone name).AgreesWith (listed history.initial history.changes)
      (moment - secondsPerDay) (moment + secondsPerDay) := by
    have hplace : ∀ second,
        history.place second = placeIn history.initial history.changes second :=
      fun _ => place_eq_placeIn hchanges fun rule hrule => absurd hrule (hnever rule)
    exact ⟨fun second _ _ => congrArg Prod.fst (hplace second),
      fun second _ _ => congrArg Prod.snd (hplace second), fun wall _ _ repeated =>
        wallOffset_eq_wallOffsetIn hchanges fun rule hrule => absurd hrule (hnever rule)⟩
  obtain ⟨change, hchange⟩ := exists_change_listed h moment
  exact ⟨change, hlisted.trans hchange⟩

end

end ZoneHistory

end TimePanel
