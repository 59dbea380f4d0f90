import TimePanel.Proofs.Calendar.Date
import TimePanel.Proofs.Zone.FoldRules

/-! Clocks that are changed twice a year, by a rule that takes over from a list of changes. -/

namespace TimePanel

open Calendar
open Instant (secondsPerDay)

namespace Calendar

-- The second at which a year begins on a clock.
def newYear (year : Nat) : Int := (daysBeforeYear year + 1 - epochOrdinal) * secondsPerDay

theorem newYear_succ {year : Nat} (h : 1 ≤ year) :
    newYear (year + 1) = newYear year + daysInYear year * secondsPerDay := by
  simp only [newYear, daysBeforeYear_succ h, secondsPerDay]
  omega

theorem exists_newYear_le {second : Int} (h : newYear 2 ≤ second) :
    ∃ year, 2 ≤ year ∧ newYear year ≤ second ∧ second < newYear (year + 1) := by
  have hsecond : daysBeforeYear 2 = 365 := rfl
  obtain ⟨year, hyear, hle, hlt⟩ :=
    exists_daysBeforeYear_le (second / secondsPerDay + epochOrdinal - 1).toNat
  simp only [newYear, secondsPerDay, epochOrdinal, hsecond] at *
  have hlate : 2 ≤ year := by
    by_contra hfirst
    obtain rfl : year = 1 := by omega
    have hnext : daysBeforeYear (1 + 1) = 365 := rfl
    omega
  exact ⟨year, hlate, by omega, by omega⟩

end Calendar

namespace YearlyChange

variable {change : YearlyChange}

-- A change between February and November, at a time of its day.
def IsInside (change : YearlyChange) : Prop :=
  2 ≤ change.month ∧ change.month ≤ 11 ∧ change.week ≤ 5 ∧
    0 ≤ change.second ∧ change.second ≤ secondsPerDay

instance : Decidable change.IsInside := inferInstanceAs (Decidable (_ ∧ _))

-- The day that the rule leads to is one of the month.
theorem exists_day_secondIn (h : change.IsInside) (year : Nat) :
    ∃ day, 1 ≤ day ∧ day ≤ daysInMonth year change.month ∧
      change.secondIn year =
        Date.epochDay ⟨year, change.month, day⟩ * secondsPerDay + change.second := by
  obtain ⟨hfirst, hlast, hweek, -⟩ := h
  have hlength := daysInMonth_bounds year (show 1 ≤ change.month by omega) (by omega)
  refine ⟨_, ?_, ?_, rfl⟩
  · split <;> omega
  · split <;> omega

theorem secondIn_bounds (h : change.IsInside) (year : Nat) :
    newYear year + daysBeforeMonth year change.month * secondsPerDay ≤ change.secondIn year ∧
      change.secondIn year ≤
        newYear year + daysBeforeMonth year (change.month + 1) * secondsPerDay := by
  obtain ⟨day, hday, hday', hsecond⟩ := exists_day_secondIn h year
  obtain ⟨hfirst, hlast, -, hearly, hlate⟩ := h
  have hnext : daysBeforeMonth year (change.month + 1) =
      daysBeforeMonth year change.month + daysInMonth year change.month :=
    daysBeforeMonth_succ (by omega) (by omega)
  simp only [hsecond, Date.epochDay, Date.ordinal, newYear, secondsPerDay] at *
  omega

-- Changes that are a month apart, and from the ends of the year as well.
theorem secondIn_apart {early late : YearlyChange} (hearly : early.IsInside) (hlate : late.IsInside)
    (hmonths : early.month + 2 ≤ late.month) {year : Nat} (hyear : 1 ≤ year) :
    newYear year + 28 * secondsPerDay ≤ early.secondIn year ∧
      early.secondIn year + 28 * secondsPerDay ≤ late.secondIn year ∧
      late.secondIn year + 28 * secondsPerDay ≤ newYear (year + 1) := by
  obtain ⟨hearlyFrom, hearlyTo⟩ := secondIn_bounds hearly year
  obtain ⟨hlateFrom, hlateTo⟩ := secondIn_bounds hlate year
  obtain ⟨hfirst, -⟩ := hearly
  obtain ⟨-, hlast, -⟩ := hlate
  have hnext := newYear_succ hyear
  have hbefore := daysBeforeMonth_mono year (Nat.le_refl 1) (show 1 ≤ early.month by omega)
    (by omega)
  have hbetween := daysBeforeMonth_mono year (show 1 ≤ early.month + 1 by omega)
    (show early.month + 1 ≤ late.month by omega) (by omega)
  have hafter := daysBeforeMonth_mono year (show 1 ≤ late.month + 1 by omega)
    (show late.month + 1 ≤ 13 by omega) (by omega)
  have hwhole := daysBeforeMonth_thirteen year
  simp only [secondsPerDay] at *
  omega

end YearlyChange

namespace SummerRule

variable {rule : SummerRule} {year : Nat} {second : Int}

theorem yearOf_eq (hyear : 1 ≤ year) (hge : newYear year ≤ second)
    (hlt : second < newYear (year + 1)) : yearOf second = year := by
  have hnext := newYear_succ hyear
  have hlength := daysInYear_pos year
  obtain ⟨rest, hrest⟩ : ∃ rest : Nat, second / secondsPerDay + epochOrdinal =
      ((daysBeforeYear year + rest + 1 : Nat) : Int) := by
    refine ⟨(second / secondsPerDay + epochOrdinal - 1 - daysBeforeYear year).toNat, ?_⟩
    simp only [newYear, secondsPerDay, epochOrdinal] at *
    omega
  have hday : (second / 86400 + epochOrdinal).toNat = daysBeforeYear year + rest + 1 := by
    simp only [secondsPerDay] at hrest
    omega
  have hwithin : rest < daysInYear year := by
    simp only [newYear, secondsPerDay, epochOrdinal] at *
    omega
  rw [yearOf, hday, Date.ofOrdinal_daysBeforeYear hyear hwithin]

-- Both changes are inside the year, with a month between theirs.
def IsRegular (rule : SummerRule) : Prop :=
  rule.start.IsInside ∧ rule.finish.IsInside ∧
    (rule.start.month + 2 ≤ rule.finish.month ∨ rule.finish.month + 2 ≤ rule.start.month) ∧
    rule.standard.natAbs < secondsPerDay ∧ rule.summer.natAbs < secondsPerDay

instance : Decidable rule.IsRegular := inferInstanceAs (Decidable (_ ∧ _))

-- The two changes of a year.
def startIn (rule : SummerRule) (year : Nat) : ClockChange :=
  ⟨rule.start.secondIn year - rule.standard, rule.standard, rule.summer⟩

def finishIn (rule : SummerRule) (year : Nat) : ClockChange :=
  ⟨rule.finish.secondIn year - rule.summer, rule.summer, rule.standard⟩

-- The same in the order in which they come.
def earlyIn (rule : SummerRule) (year : Nat) : ClockChange :=
  if rule.start.month < rule.finish.month then rule.startIn year else rule.finishIn year

def lateIn (rule : SummerRule) (year : Nat) : ClockChange :=
  if rule.start.month < rule.finish.month then rule.finishIn year else rule.startIn year

def clock (rule : SummerRule) : Zone :=
  { name := "", offsetAt := fun second => (rule.place second).1,
    repeatedAt := fun second => (rule.place second).2, wallOffset := rule.wallOffset }

theorem IsRegular.isWithinDay_startIn (h : rule.IsRegular) (year : Nat) :
    (rule.startIn year).IsWithinDay := ⟨h.2.2.2.1, h.2.2.2.2⟩

theorem IsRegular.isWithinDay_finishIn (h : rule.IsRegular) (year : Nat) :
    (rule.finishIn year).IsWithinDay := ⟨h.2.2.2.2, h.2.2.2.1⟩

-- The changes of a year are weeks away from its ends and from each other.
theorem IsRegular.moments (h : rule.IsRegular) {year : Nat} (hyear : 1 ≤ year) :
    newYear year + 27 * secondsPerDay ≤ (rule.earlyIn year).moment ∧
      (rule.earlyIn year).moment + 26 * secondsPerDay ≤ (rule.lateIn year).moment ∧
      (rule.lateIn year).moment + 27 * secondsPerDay ≤ newYear (year + 1) := by
  obtain ⟨hstart, hfinish, hapart, hstandard, hsummer⟩ := h
  unfold earlyIn lateIn
  rcases hapart with hnorth | hsouth
  · have hmonths := YearlyChange.secondIn_apart hstart hfinish hnorth hyear
    simp only [if_pos (show rule.start.month < rule.finish.month by omega), startIn, finishIn,
      secondsPerDay] at *
    omega
  · have hmonths := YearlyChange.secondIn_apart hfinish hstart hsouth hyear
    simp only [if_neg (show ¬ rule.start.month < rule.finish.month by omega), startIn, finishIn,
      secondsPerDay] at *
    omega

section

variable {start finish : Int}

-- Away from the finish of the season only its start matters, and the other way round.
theorem ite_inSeason_start (on off : Int) (hbefore : start < finish → second < finish)
    (hafter : finish ≤ start → finish ≤ second) :
    (if inSeason start finish second then on else off) = if second < start then off else on := by
  have hseason : inSeason start finish second = true ↔ ¬ second < start := by
    unfold inSeason
    split
    · next horder => simp [hbefore horder]
    · next horder => simp [hafter (by omega)]
  by_cases hearly : second < start
  · rw [if_pos hearly, if_neg (fun h => hseason.mp h hearly)]
  · rw [if_neg hearly, if_pos (hseason.mpr hearly)]

theorem ite_inSeason_finish (on off : Int) (hbefore : finish ≤ start → second < start)
    (hafter : start < finish → start ≤ second) :
    (if inSeason start finish second then on else off) = if second < finish then on else off := by
  have hseason : inSeason start finish second = true ↔ second < finish := by
    unfold inSeason
    split
    · next horder => simp [hafter horder]
    · next horder => simp [hbefore (by omega)]
  by_cases hearly : second < finish
  · rw [if_pos hearly, if_pos (hseason.mpr hearly)]
  · rw [if_neg hearly, if_neg (fun h => hearly (hseason.mp h))]

end

theorem wallStart_startIn (repeated : Bool) : (rule.startIn year).wallStart repeated =
    if repeated = decide (0 ≤ rule.gain) then rule.start.secondIn year
    else rule.start.secondIn year + rule.gain := by
  simp only [ClockChange.wallStart, startIn]
  by_cases hgain : 0 ≤ rule.gain
  · rw [decide_eq_true hgain]
    unfold gain at hgain ⊢
    cases repeated <;> simp only [Bool.false_eq_true, if_true, if_false] <;> omega
  · rw [decide_eq_false hgain]
    unfold gain at hgain ⊢
    cases repeated <;>
      simp only [Bool.true_eq_false, Bool.false_eq_true, if_true, if_false] <;> omega

theorem wallStart_finishIn (repeated : Bool) : (rule.finishIn year).wallStart repeated =
    if repeated = decide (0 ≤ rule.gain) then rule.finish.secondIn year - rule.gain
    else rule.finish.secondIn year := by
  simp only [ClockChange.wallStart, finishIn]
  by_cases hgain : 0 ≤ rule.gain
  · rw [decide_eq_true hgain]
    unfold gain at hgain ⊢
    cases repeated <;> simp only [Bool.false_eq_true, if_true, if_false] <;> omega
  · rw [decide_eq_false hgain]
    unfold gain at hgain ⊢
    cases repeated <;>
      simp only [Bool.true_eq_false, Bool.false_eq_true, if_true, if_false] <;> omega

section

variable (hyear : 1 ≤ year) (hge : newYear year ≤ second) (hlt : second < newYear (year + 1))
include hyear hge hlt

-- What a rule shows within a year, told by the two changes of this year.
theorem place_fst : (rule.place second).1 =
    if inSeason (rule.startIn year).moment (rule.finishIn year).moment second then rule.summer
    else rule.standard := by
  simp only [place, yearOf_eq hyear hge hlt]
  rfl

theorem place_snd : (rule.place second).2 =
    ((rule.startIn year).repeatedAt second || (rule.finishIn year).repeatedAt second) := by
  simp only [place, yearOf_eq hyear hge hlt]
  by_cases hgain : 0 < rule.gain
  · have hstart := (rule.startIn year).repeatedAt_of_le (by simp only [startIn, gain] at *; omega)
    rw [if_pos hgain, hstart second, Bool.false_or]
    rfl
  · have hfinish := (rule.finishIn year).repeatedAt_of_le
      (by simp only [finishIn, gain] at *; omega)
    have hpass : rule.start.secondIn year - rule.standard - rule.gain =
        rule.start.secondIn year - rule.standard + (rule.standard - rule.summer) := by
      unfold gain
      omega
    rw [if_neg hgain, hfinish second, Bool.or_false, hpass]
    rfl

theorem wallOffset_eq (repeated : Bool) : rule.wallOffset second repeated =
    if inSeason ((rule.startIn year).wallStart repeated) ((rule.finishIn year).wallStart repeated)
      second then rule.summer else rule.standard := by
  simp only [wallOffset, yearOf_eq hyear hge hlt, wallStart_startIn, wallStart_finishIn]
  split <;> rfl

end

theorem IsRegular.apart (h : rule.IsRegular) (hyear : 1 ≤ year) :
    (rule.startIn year).moment + 26 * secondsPerDay ≤ (rule.finishIn year).moment ∨
      (rule.finishIn year).moment + 26 * secondsPerDay ≤ (rule.startIn year).moment := by
  obtain ⟨-, hbetween, -⟩ := h.moments hyear
  unfold earlyIn lateIn at hbetween
  split at hbetween
  · exact .inl hbetween
  · exact .inr hbetween

section

variable (h : rule.IsRegular) (hyear : 1 ≤ year) {first last : Int} (hfirst : newYear year ≤ first)
  (hlast : last < newYear (year + 1))
include h hyear hfirst hlast

-- Before or after the season's finish, whichever side its start is on, nothing but the start is
-- seen.
theorem clock_startIn
    (hbefore : (rule.startIn year).moment < (rule.finishIn year).moment →
      last + secondsPerDay ≤ (rule.finishIn year).moment)
    (hafter : (rule.finishIn year).moment ≤ (rule.startIn year).moment →
      (rule.finishIn year).moment + 2 * secondsPerDay ≤ first) :
    rule.clock.AgreesWith (rule.startIn year).clock first last := by
  have hapart := h.apart hyear
  simp only [secondsPerDay] at hapart hbefore hafter
  constructor
  · intro second hge hle
    exact (place_fst hyear (by omega) (by omega)).trans
      (ite_inSeason_start _ _ (by omega) (by omega))
  · intro second hge hle
    have hquiet : (rule.finishIn year).repeatedAt second = false := by
      apply (h.isWithinDay_finishIn year).repeatedAt_of_far
      simp only [secondsPerDay]
      omega
    refine (place_snd hyear (by omega) (by omega)).trans ?_
    rw [hquiet, Bool.or_false]
    rfl
  · intro wall hge hle repeated
    have hstart := (h.isWithinDay_startIn year).wallStart_bounds repeated
    have hfinish := (h.isWithinDay_finishIn year).wallStart_bounds repeated
    simp only [secondsPerDay] at hstart hfinish
    exact (wallOffset_eq hyear (by omega) (by omega) repeated).trans
      (ite_inSeason_start _ _ (by omega) (by omega))

theorem clock_finishIn
    (hbefore : (rule.finishIn year).moment ≤ (rule.startIn year).moment →
      last + secondsPerDay ≤ (rule.startIn year).moment)
    (hafter : (rule.startIn year).moment < (rule.finishIn year).moment →
      (rule.startIn year).moment + 2 * secondsPerDay ≤ first) :
    rule.clock.AgreesWith (rule.finishIn year).clock first last := by
  have hapart := h.apart hyear
  simp only [secondsPerDay] at hapart hbefore hafter
  constructor
  · intro second hge hle
    exact (place_fst hyear (by omega) (by omega)).trans
      (ite_inSeason_finish _ _ (by omega) (by omega))
  · intro second hge hle
    have hquiet : (rule.startIn year).repeatedAt second = false := by
      apply (h.isWithinDay_startIn year).repeatedAt_of_far
      simp only [secondsPerDay]
      omega
    refine (place_snd hyear (by omega) (by omega)).trans ?_
    rw [hquiet, Bool.false_or]
    rfl
  · intro wall hge hle repeated
    have hstart := (h.isWithinDay_startIn year).wallStart_bounds repeated
    have hfinish := (h.isWithinDay_finishIn year).wallStart_bounds repeated
    simp only [secondsPerDay] at hstart hfinish
    exact (wallOffset_eq hyear (by omega) (by omega) repeated).trans
      (ite_inSeason_finish _ _ (by omega) (by omega))

end

-- The offset around the turn of the year.
def restOffset (rule : SummerRule) : Int :=
  if rule.start.month < rule.finish.month then rule.standard else rule.summer

theorem before_earlyIn (rule : SummerRule) (year : Nat) :
    (rule.earlyIn year).before = rule.restOffset := by
  unfold earlyIn restOffset
  split <;> rfl

theorem after_lateIn (rule : SummerRule) (year : Nat) :
    (rule.lateIn year).after = rule.restOffset := by
  unfold lateIn restOffset
  split <;> rfl

theorem IsRegular.isWithinDay_earlyIn (h : rule.IsRegular) (year : Nat) :
    (rule.earlyIn year).IsWithinDay := by
  unfold earlyIn
  split
  · exact h.isWithinDay_startIn year
  · exact h.isWithinDay_finishIn year

theorem IsRegular.isWithinDay_lateIn (h : rule.IsRegular) (year : Nat) :
    (rule.lateIn year).IsWithinDay := by
  unfold lateIn
  split
  · exact h.isWithinDay_finishIn year
  · exact h.isWithinDay_startIn year

section

variable (h : rule.IsRegular) (hyear : 1 ≤ year)
include h hyear

theorem clock_earlyIn : rule.clock.AgreesWith (rule.earlyIn year).clock (newYear year)
    ((rule.lateIn year).moment - secondsPerDay) := by
  have hmoments := h.moments hyear
  simp only [secondsPerDay] at *
  unfold earlyIn lateIn at *
  split at hmoments
  · next horder =>
      simp only [if_pos horder] at *
      exact clock_startIn h hyear (by omega) (by omega) (by simp only [secondsPerDay]; omega)
        (by omega)
  · next horder =>
      simp only [if_neg horder] at *
      exact clock_finishIn h hyear (by omega) (by omega) (by simp only [secondsPerDay]; omega)
        (by omega)

theorem clock_lateIn : rule.clock.AgreesWith (rule.lateIn year).clock
    ((rule.earlyIn year).moment + 2 * secondsPerDay) (newYear (year + 1) - 1) := by
  have hmoments := h.moments hyear
  simp only [secondsPerDay] at *
  unfold earlyIn lateIn at *
  split at hmoments
  · next horder =>
      simp only [if_pos horder] at *
      exact clock_finishIn h hyear (by omega) (by omega) (by omega)
        (by simp only [secondsPerDay]; omega)
  · next horder =>
      simp only [if_neg horder] at *
      exact clock_startIn h hyear (by omega) (by omega) (by omega)
        (by simp only [secondsPerDay]; omega)

-- Nothing changes for a week on both sides of the turn of the year.
theorem clock_newYear : rule.clock.AgreesWith (.fixed "" rule.restOffset)
    (newYear (year + 1) - 7 * secondsPerDay) (newYear (year + 1) + 7 * secondsPerDay) := by
  have hnext : 1 ≤ year + 1 := by omega
  have hmoments := h.moments hyear
  have hmomentsNext := h.moments hnext
  simp only [secondsPerDay] at *
  have hold : rule.clock.AgreesWith (.fixed "" rule.restOffset) (newYear (year + 1) - 7 * 86400)
      (newYear (year + 1) - 1) := by
    rw [← after_lateIn rule year]
    have hlate := (h.isWithinDay_lateIn year)
    exact ((clock_lateIn h hyear).mono (by simp only [secondsPerDay]; omega) (Int.le_refl _)).trans
      (.clock_after hlate (by simp only [secondsPerDay]; omega))
  have hnew : rule.clock.AgreesWith (.fixed "" rule.restOffset) (newYear (year + 1) - 1 + 1)
      (newYear (year + 1) + 7 * 86400) := by
    rw [Int.sub_add_cancel, ← before_earlyIn rule (year + 1)]
    have hearly := h.isWithinDay_earlyIn (year + 1)
    exact ((clock_earlyIn h hnext).mono (Int.le_refl _) (by simp only [secondsPerDay]; omega)).trans
      (.clock_before hearly (by simp only [secondsPerDay]; omega))
  exact hold.append hnew

end

theorem exists_change_clock (h : rule.IsRegular) {moment : Int} (hmoment : newYear 2 ≤ moment) :
    ∃ change : ClockChange, rule.clock.AgreesWith change.clock (moment - secondsPerDay)
      (moment + secondsPerDay) := by
  obtain ⟨year, hyear, hge, hlt⟩ := exists_newYear_le hmoment
  have hmoments := h.moments (show 1 ≤ year by omega)
  by_cases hbegun : moment - secondsPerDay < newYear year
  · obtain ⟨past, rfl⟩ := Nat.exists_eq_add_of_le' (show 1 ≤ year by omega)
    have hturn := (clock_newYear h (show 1 ≤ past by omega)).trans (.fixed_clock "" _ 0)
    refine ⟨_, hturn.mono ?_ ?_⟩ <;> simp only [secondsPerDay] at * <;> omega
  by_cases hover : newYear (year + 1) ≤ moment + secondsPerDay
  · have hturn := (clock_newYear h (show 1 ≤ year by omega)).trans (.fixed_clock "" _ 0)
    refine ⟨_, hturn.mono ?_ ?_⟩ <;> simp only [secondsPerDay] at * <;> omega
  by_cases hlate : moment + 2 * secondsPerDay ≤ (rule.lateIn year).moment
  · have hearly := clock_earlyIn h (show 1 ≤ year by omega)
    refine ⟨_, hearly.mono ?_ ?_⟩ <;> simp only [secondsPerDay] at * <;> omega
  · have hlater := clock_lateIn h (show 1 ≤ year by omega)
    refine ⟨_, hlater.mono ?_ ?_⟩ <;> simp only [secondsPerDay] at * <;> omega

-- Whether the rule makes a change that is the last one of a list, or none for some days after it.
def TakesOver (rule : SummerRule) (year : Nat) (change : ClockChange) : Prop :=
  1 ≤ year ∧ (change = rule.earlyIn year ∨ change = rule.lateIn year ∨
    newYear year + secondsPerDay ≤ change.moment ∧
      change.moment + 5 * secondsPerDay ≤ (rule.earlyIn year).moment ∧
      change.before = rule.restOffset ∧ change.after = rule.restOffset)

instance (year : Nat) (change : ClockChange) : Decidable (rule.TakesOver year change) :=
  inferInstanceAs (Decidable (_ ∧ _))

theorem clock_of_takesOver (h : rule.IsRegular) {change : ClockChange}
    (hchange : rule.TakesOver year change) :
    rule.clock.AgreesWith change.clock (change.moment - secondsPerDay)
      (change.moment + 3 * secondsPerDay) := by
  obtain ⟨hyear, hcases⟩ := hchange
  have hmoments := h.moments hyear
  rcases hcases with rfl | rfl | ⟨hbegun, hsoon, hbefore, hafter⟩
  · refine (clock_earlyIn h hyear).mono ?_ ?_ <;> simp only [secondsPerDay] at * <;> omega
  · refine (clock_lateIn h hyear).mono ?_ ?_ <;> simp only [secondsPerDay] at * <;> omega
  · obtain ⟨moment, before, after⟩ := change
    obtain rfl : before = rule.restOffset := hbefore
    obtain rfl : after = rule.restOffset := hafter
    have hearly : rule.clock.AgreesWith (rule.earlyIn year).clock (moment - secondsPerDay)
        (moment + 3 * secondsPerDay) := by
      refine (clock_earlyIn h hyear).mono ?_ ?_ <;> simp only [secondsPerDay] at * <;> omega
    have hstill : (rule.earlyIn year).clock.AgreesWith (.fixed "" rule.restOffset)
        (moment - secondsPerDay) (moment + 3 * secondsPerDay) := by
      rw [← before_earlyIn rule year]
      apply Zone.AgreesWith.clock_before (h.isWithinDay_earlyIn year)
      simp only [secondsPerDay] at *
      omega
    exact hearly.trans (hstill.trans (.fixed_clock "" _ moment))

end SummerRule

namespace ZoneHistory

variable {history : ZoneHistory} {rule : SummerRule} {earlier : List Change} {last : Change}

theorem IsApart.isWithinDay_last {initial : Int} (h : IsApart initial (earlier ++ [last])) :
    ClockChange.IsWithinDay ⟨last.moment, offsetBefore initial earlier, last.offset⟩ where
  before := by
    unfold offsetBefore
    cases hbefore : earlier.getLast? with
    | none => exact h.initial
    | some change => exact h.offsets change (List.mem_append_left _ (List.mem_of_getLast? hbefore))
  after := h.offsets last (by simp)

section

variable (houtlook : history.outlook = .yearly rule)
  (hchanges : history.changes = earlier ++ [last])
include hchanges

theorem isPast_eq (reached : Int → Change → Bool) :
    history.isPast reached = reached (offsetBefore history.initial earlier) last := by
  simp [isPast, hchanges, offsetBefore]

include houtlook

-- After the last change the rule decides, and before it the list.
theorem place_yearly (second : Int) : history.place second =
    if last.moment < second then rule.place second
    else placeIn history.initial history.changes second := by
  split
  · next hpast => simp only [place, houtlook, isPast_eq hchanges, decide_eq_true hpast]
  · next hpast =>
      apply place_eq_placeIn (by simp [hchanges])
      intro _ _
      rw [isPast_eq hchanges, decide_eq_false hpast]

theorem wallOffset_yearly (wall : Int) (repeated : Bool) : history.wallOffset wall repeated =
    if wallStart repeated (offsetBefore history.initial earlier) last < wall
    then rule.wallOffset wall repeated
    else wallOffsetIn history.initial history.changes wall repeated := by
  split
  · next hpast => simp only [wallOffset, houtlook, isPast_eq hchanges, decide_eq_true hpast]
  · next hpast =>
      apply wallOffset_eq_wallOffsetIn (by simp [hchanges])
      intro _ _
      rw [isPast_eq hchanges, decide_eq_false hpast]

variable (hrule : rule.IsRegular) (h : IsApart history.initial history.changes)
include hrule h

-- A rule that takes over from a list of changes goes on from the last of them.
theorem exists_change_of_yearly (hyear : newYear 2 ≤ last.moment) {year : Nat}
    (htakes : rule.TakesOver year
      ⟨last.moment, offsetBefore history.initial earlier, last.offset⟩)
    (name : String) (moment : Int) :
    ∃ change : ClockChange, (history.zone name).AgreesWith change.clock
      (moment - secondsPerDay) (moment + secondsPerDay) := by
  have hplace := place_yearly houtlook hchanges
  have hwall := wallOffset_yearly houtlook hchanges
  have happ : IsApart history.initial (earlier ++ [last]) := hchanges ▸ h
  have hstart := happ.isWithinDay_last.wallStart_bounds
  have hagree : rule.clock.AgreesWith (listed history.initial history.changes)
      (last.moment - secondsPerDay) (last.moment + 3 * secondsPerDay) := by
    rw [hchanges]
    refine (SummerRule.clock_of_takesOver hrule htakes).trans
      ((listed_last happ (last.moment + 3 * secondsPerDay)).mono ?_ (Int.le_refl _)).symm
    simp only [secondsPerDay]
    omega
  by_cases hpast : last.moment + 2 * secondsPerDay < moment
  · obtain ⟨change, hchange⟩ := SummerRule.exists_change_clock hrule
      (show newYear 2 ≤ moment by simp only [secondsPerDay] at hpast; omega)
    refine ⟨change, .trans ?_ hchange⟩
    constructor
    · intro second hge _
      simp only [secondsPerDay] at hpast hge
      exact congrArg Prod.fst ((hplace second).trans (if_pos (by omega)))
    · intro second hge _
      simp only [secondsPerDay] at hpast hge
      exact congrArg Prod.snd ((hplace second).trans (if_pos (by omega)))
    · intro wall hge _ repeated
      have hreached := (hstart repeated).2
      refine (hwall wall repeated).trans (if_pos ?_)
      rw [wallStart_eq]
      dsimp only at hreached
      omega
  · obtain ⟨change, hchange⟩ := exists_change_listed h moment
    refine ⟨change, .trans ?_ hchange⟩
    have hsame : ∀ second ≤ moment + secondsPerDay,
        (history.place second).1 = (placeIn history.initial history.changes second).1 ∧
          (history.place second).2 = (placeIn history.initial history.changes second).2 := by
      intro second hle
      rw [hplace second]
      split
      · next hlate =>
          simp only [secondsPerDay] at hpast hle
          have hge : last.moment - secondsPerDay ≤ second := by simp only [secondsPerDay]; omega
          have hlt : second ≤ last.moment + 3 * secondsPerDay := by
            simp only [secondsPerDay]
            omega
          exact ⟨hagree.offsetAt second hge hlt, hagree.repeatedAt second hge hlt⟩
      · exact ⟨rfl, rfl⟩
    refine ⟨fun second _ hle => (hsame second hle).1, fun second _ hle => (hsame second hle).2, ?_⟩
    intro wall _ hle repeated
    have hreached := (hstart repeated).1
    rw [← wallStart_eq] at hreached
    dsimp only at hreached
    refine (hwall wall repeated).trans ?_
    split
    · next hlate => exact hagree.wallOffset wall (by omega) (by omega) repeated
    · rfl

end

-- Whether there are changes, and a rule for later years takes over from the last of them.
def goesOn (history : ZoneHistory) : Bool :=
  match history.changes.getLast?, history.outlook with
  | some last, .yearly rule =>
    rule.IsRegular ∧ newYear 2 ≤ last.moment ∧ rule.TakesOver (SummerRule.yearOf last.moment)
      ⟨last.moment, offsetBefore history.initial history.changes.dropLast, last.offset⟩
  | some _, .constant _ => true
  | none, _ => false

theorem followsFoldRules_zone (hoffsets : ∀ offset ∈ history.offsets, offset.natAbs < secondsPerDay)
    (hmoments : history.changes.IsChain fun change next =>
      change.moment + 5 * secondsPerDay ≤ next.moment)
    (hgoes : history.goesOn = true) (name : String) : (history.zone name).FollowsFoldRules where
  isWithinDay := isWithinDay_zone name hoffsets
  exists_change moment := by
    have happ : IsApart history.initial history.changes :=
      ⟨hoffsets _ history.initial_mem,
        fun change hchange => hoffsets _ (by simp [offsets, List.mem_map_of_mem hchange]), hmoments⟩
    unfold goesOn at hgoes
    split at hgoes
    · next last rule hlast houtlook =>
        obtain ⟨hrule, hyear, htakes⟩ := of_decide_eq_true hgoes
        obtain ⟨earlier, hchanges⟩ := List.getLast?_eq_some_iff.mp hlast
        rw [hchanges, List.dropLast_concat] at htakes
        exact exists_change_of_yearly houtlook hchanges hrule happ hyear htakes name moment
    · next last offset hlast houtlook =>
        have hne : history.changes ≠ [] := by
          intro hnil
          simp [hnil] at hlast
        exact exists_change_of_constant hne houtlook happ name moment
    · cases hgoes

end ZoneHistory

namespace Zone

-- All zones that have a name are of this kind.
theorem followsFoldRules_of_named {name : String} {zone : Zone} (h : named? name = some zone) :
    zone.FollowsFoldRules := by
  have hmoments : ∀ place ∈ places, place.2.changes.IsChain fun change next =>
      change.moment + 5 * secondsPerDay ≤ next.moment := by decide +kernel
  have hgoes : ∀ place ∈ places, place.2.goesOn = true := by decide +kernel
  rcases of_named h with ⟨offset, hoffset, rfl⟩ | ⟨history, hmem, hoffsets, rfl⟩
  · exact followsFoldRules_fixed hoffset name
  · exact ZoneHistory.followsFoldRules_zone hoffsets (hmoments _ hmem) (hgoes _ hmem) name

end Zone

end TimePanel
