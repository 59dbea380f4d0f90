import Mathlib.Data.String.Basic
import TimePanel.Calendar.DateTime
import TimePanel.Proofs.Calendar.Date

/-! Dates and times in the form for a comparison with stored text: their order as text, next to
their order in time. -/

namespace TimePanel

open Calendar

namespace Text

variable {as bs xs ys : List Char}

-- Where texts begin with parts of the same length, these parts decide first.
theorem append_lt_append_iff (h : as.length = bs.length) :
    as ++ xs < bs ++ ys ↔ as < bs ∨ as = bs ∧ xs < ys := by
  induction as generalizing bs with
  | nil =>
      obtain rfl := List.length_eq_zero_iff.mp h.symm
      simp
  | cons a as ih =>
      cases bs with
      | nil => cases h
      | cons b bs =>
          rw [List.cons_append, List.cons_append, List.cons_lt_cons_iff, List.cons_lt_cons_iff,
            ih (Nat.succ.inj h), List.cons.injEq]
          tauto

-- So do parts of any length that are ended by a mark smaller than all of their characters.
theorem append_mark_lt_iff {mark : Char} (has : ∀ c ∈ as, mark < c) (hbs : ∀ c ∈ bs, mark < c) :
    as ++ mark :: xs < bs ++ mark :: ys ↔ as < bs ∨ as = bs ∧ xs < ys := by
  induction as generalizing bs with
  | nil =>
      cases bs with
      | nil => simp
      | cons b bs =>
          have hmark := hbs b List.mem_cons_self
          simp [List.cons_lt_cons_iff, hmark]
  | cons a as ih =>
      have hmark := has a List.mem_cons_self
      cases bs with
      | nil => simp [List.cons_lt_cons_iff, hmark.not_gt, hmark.ne']
      | cons b bs =>
          rw [List.cons_append, List.cons_append, List.cons_lt_cons_iff, List.cons_lt_cons_iff,
            ih (fun c hc => has c (List.mem_cons_of_mem a hc))
              (fun c hc => hbs c (List.mem_cons_of_mem b hc)), List.cons.injEq]
          tauto

theorem lt_iff_toNat_lt {c d : Char} : c < d ↔ c.toNat < d.toNat :=
  Char.lt_def.trans UInt32.lt_iff_toNat_lt

theorem ofDigitChars_cons (a : Char) (as : List Char) :
    Nat.ofDigitChars 10 (a :: as) 0 =
      10 ^ as.length * (a.toNat - '0'.toNat) + Nat.ofDigitChars 10 as 0 := by
  rw [Nat.ofDigitChars_cons, Nat.mul_zero, Nat.zero_add, Nat.ofDigitChars_eq_ofDigitChars_zero]

theorem ofDigitChars_lt (has : ∀ c ∈ as, c.isDigit = true) :
    Nat.ofDigitChars 10 as 0 < 10 ^ as.length := by
  induction as with
  | nil => decide
  | cons a as ih =>
      have hrest := ih fun c hc => has c (List.mem_cons_of_mem a hc)
      have hdigit : a.toNat - '0'.toNat + 1 ≤ 10 := by
        have hrange : '0'.toNat ≤ a.toNat ∧ a.toNat ≤ '9'.toNat :=
          Char.isDigit_iff_toNat.mp (has a List.mem_cons_self)
        simp only [Char.reduceToNat] at hrange ⊢
        omega
      calc Nat.ofDigitChars 10 (a :: as) 0
          < 10 ^ as.length * (a.toNat - '0'.toNat) + 10 ^ as.length := by
            rw [ofDigitChars_cons]
            omega
        _ = 10 ^ as.length * (a.toNat - '0'.toNat + 1) := (Nat.mul_succ _ _).symm
        _ ≤ 10 ^ (a :: as).length := Nat.mul_le_mul_left _ hdigit

-- The leading places decide first.
theorem mul_add_lt_mul_add_iff {base m n x y : Nat} (hx : x < base) (hy : y < base) :
    base * m + x < base * n + y ↔ m < n ∨ m = n ∧ x < y := by
  rcases Nat.lt_trichotomy m n with h | rfl | h
  · have hnext : base * m + base ≤ base * n := Nat.mul_le_mul_left base h
    omega
  · omega
  · have hnext : base * n + base ≤ base * m := Nat.mul_le_mul_left base h
    omega

-- Equally many digits are in the order of what they count.
theorem lt_iff_ofDigitChars_lt (has : ∀ c ∈ as, c.isDigit = true)
    (hbs : ∀ c ∈ bs, c.isDigit = true) (hlength : as.length = bs.length) :
    as < bs ↔ Nat.ofDigitChars 10 as 0 < Nat.ofDigitChars 10 bs 0 := by
  induction as generalizing bs with
  | nil =>
      obtain rfl := List.length_eq_zero_iff.mp hlength.symm
      simp
  | cons a as ih =>
      cases bs with
      | nil => cases hlength
      | cons b bs =>
          obtain ⟨ha, has⟩ := List.forall_mem_cons.mp has
          obtain ⟨hb, hbs⟩ := List.forall_mem_cons.mp hbs
          have hsame : as.length = bs.length := Nat.succ.inj hlength
          have hfirst : '0'.toNat ≤ a.toNat ∧ '0'.toNat ≤ b.toNat :=
            ⟨(Char.isDigit_iff_toNat.mp ha).1, (Char.isDigit_iff_toNat.mp hb).1⟩
          have hlt : a < b ↔ a.toNat - '0'.toNat < b.toNat - '0'.toNat := by
            rw [lt_iff_toNat_lt]
            omega
          have heq : a = b ↔ a.toNat - '0'.toNat = b.toNat - '0'.toNat := by
            rw [← Char.toNat_inj]
            omega
          rw [List.cons_lt_cons_iff, ih has hbs hsame, ofDigitChars_cons, ofDigitChars_cons, hsame,
            mul_add_lt_mul_add_iff (hsame ▸ ofDigitChars_lt has) (ofDigitChars_lt hbs), hlt, heq]

-- Numbers as they are written.
theorem isDigit_toString {n : Nat} {c : Char} (hc : c ∈ (toString n).toList) :
    c.isDigit = true := by
  rw [Nat.toString_eq_repr, Nat.toList_repr] at hc
  exact Nat.isDigit_of_mem_toDigits (by decide) (by decide) hc

theorem ofDigitChars_toString (n : Nat) : Nat.ofDigitChars 10 (toString n).toList 0 = n := by
  rw [Nat.toString_eq_repr, Nat.toList_repr, Nat.ofDigitChars_toDigits (by decide) (by decide)]

theorem toString_nat_inj {m n : Nat} : toString m = toString n ↔ m = n :=
  ⟨fun h => by rw [← ofDigitChars_toString m, h, ofDigitChars_toString], fun h => by rw [h]⟩

theorem toString_lt_iff {m n : Nat} (h : (toString m).length = (toString n).length) :
    toString m < toString n ↔ m < n := by
  rw [String.lt_iff_toList_lt, lt_iff_ofDigitChars_lt (fun _ => isDigit_toString)
    (fun _ => isDigit_toString) (by rwa [String.length_toList, String.length_toList]),
    ofDigitChars_toString, ofDigitChars_toString]

end Text

namespace Calendar

open Text

theorem toList_padded (width n : Nat) : (padded width n).toList =
    List.replicate (width - (Nat.toDigits 10 n).length) '0' ++ Nat.toDigits 10 n := by
  rw [padded, String.toList_ofList]

theorem length_padded {width n : Nat} (hwidth : 0 < width) (h : n < 10 ^ width) :
    (padded width n).toList.length = width := by
  have hdigits := (Nat.length_toDigits_le_iff (by decide) hwidth).mpr h
  rw [toList_padded, List.length_append, List.length_replicate]
  omega

theorem isDigit_padded {width n : Nat} {c : Char} (hc : c ∈ (padded width n).toList) :
    c.isDigit = true := by
  rw [toList_padded, List.mem_append, List.mem_replicate] at hc
  rcases hc with ⟨-, rfl⟩ | hc
  · rfl
  · exact Nat.isDigit_of_mem_toDigits (by decide) (by decide) hc

theorem ofDigitChars_padded (width n : Nat) :
    Nat.ofDigitChars 10 (padded width n).toList 0 = n := by
  rw [toList_padded, Nat.ofDigitChars_append, Nat.ofDigitChars_replicate_zero, Nat.mul_zero,
    Nat.ofDigitChars_toDigits (by decide) (by decide)]

theorem padded_inj {width m n : Nat} : (padded width m).toList = (padded width n).toList ↔ m = n :=
  ⟨fun h => by rw [← ofDigitChars_padded width m, h, ofDigitChars_padded], fun h => by rw [h]⟩

-- Numbers that are padded to the same width decide before what follows them.
theorem padded_append_lt_iff {width m n : Nat} {xs ys : List Char} (hwidth : 0 < width)
    (hm : m < 10 ^ width) (hn : n < 10 ^ width) :
    (padded width m).toList ++ xs < (padded width n).toList ++ ys ↔
      m < n ∨ m = n ∧ xs < ys := by
  have hlength : (padded width m).toList.length = (padded width n).toList.length := by
    rw [length_padded hwidth hm, length_padded hwidth hn]
  rw [append_lt_append_iff hlength, padded_inj,
    lt_iff_ofDigitChars_lt (fun _ => isDigit_padded) (fun _ => isDigit_padded) hlength,
    ofDigitChars_padded, ofDigitChars_padded]

end Calendar

namespace TimeOfDay

theorem isValid_iff {time : TimeOfDay} : time.isValid = true ↔
    time.hour < 24 ∧ time.minute < 60 ∧ time.second < 60 ∧ time.micro < 1000000 := by
  simp [isValid, and_assoc]

theorem isValid_ofMicros {micros : Nat} (h : micros < microsPerDay) :
    (ofMicros micros).isValid = true := by
  simp only [isValid_iff, ofMicros, microsPerDay] at *
  omega

end TimeOfDay

namespace WallTime

open Text

-- A date of the calendar with a time of the day.
structure IsValid (wall : WallTime) : Prop where
  date : wall.date.isValid = true
  time : wall.time.isValid = true

-- What is shown after the year, down to the seconds.
def afterYear (wall : WallTime) : List Nat :=
  [wall.date.month, wall.date.day, wall.time.hour, wall.time.minute, wall.time.second]

def afterYearText (wall : WallTime) : List Char :=
  (padded 2 wall.date.month).toList ++ '-' :: ((padded 2 wall.date.day).toList ++ ' ' ::
    ((padded 2 wall.time.hour).toList ++ ':' :: ((padded 2 wall.time.minute).toList ++ ':' ::
      ((padded 2 wall.time.second).toList ++ []))))

theorem toList_literal (wall : WallTime) :
    wall.literal.toList = (toString wall.date.year).toList ++ '-' :: wall.afterYearText := by
  simp [literal, afterYearText, secondsText, String.toList_append]

variable {low high : WallTime}

theorem IsValid.afterYear_lt (h : low.IsValid) : ∀ n ∈ low.afterYear, n < 10 ^ 2 := by
  obtain ⟨-, -, hmonth, hmonth', -, hday⟩ := Date.isValid_iff.mp h.date
  obtain ⟨hhour, hminute, hsecond, -⟩ := TimeOfDay.isValid_iff.mp h.time
  have hlength := (daysInMonth_bounds low.date.year hmonth hmonth').2
  simp only [afterYear, List.forall_mem_cons]
  exact ⟨by omega, by omega, by omega, by omega, by omega, List.forall_mem_nil _⟩

-- All of it has two digits, and so is in order as text.
theorem afterYearText_lt_iff (hlow : low.IsValid) (hhigh : high.IsValid) :
    low.afterYearText < high.afterYearText ↔ low.afterYear < high.afterYear := by
  have hfirst := hlow.afterYear_lt
  have hlast := hhigh.afterYear_lt
  simp only [afterYear, List.forall_mem_cons] at hfirst hlast
  obtain ⟨hmonth, hday, hhour, hminute, hsecond, -⟩ := hfirst
  obtain ⟨hmonth', hday', hhour', hminute', hsecond', -⟩ := hlast
  simp only [afterYearText, afterYear, List.cons_lt_cons_iff,
    padded_append_lt_iff (by decide : 0 < 2) hmonth hmonth',
    padded_append_lt_iff (by decide : 0 < 2) hday hday',
    padded_append_lt_iff (by decide : 0 < 2) hhour hhour',
    padded_append_lt_iff (by decide : 0 < 2) hminute hminute',
    padded_append_lt_iff (by decide : 0 < 2) hsecond hsecond']
  simp

-- Seconds since midnight.
def secondOfDay (wall : WallTime) : Nat :=
  (wall.time.hour * 60 + wall.time.minute) * 60 + wall.time.second

theorem epochSeconds_eq (h : low.IsValid) :
    low.epochSeconds = low.date.epochDay * 86400 + low.secondOfDay := by
  obtain ⟨-, -, -, hmicro⟩ := TimeOfDay.isValid_iff.mp h.time
  simp only [epochSeconds, epochMicros, TimeOfDay.micros, TimeOfDay.microsPerDay, secondOfDay]
  omega

-- Wall times to the second are in the order of their years, and in one year of what is shown after
-- it.
theorem epochSeconds_lt_iff (hlow : low.IsValid) (hhigh : high.IsValid) :
    low.epochSeconds < high.epochSeconds ↔ low.date.year < high.date.year ∨
      low.date.year = high.date.year ∧ low.afterYear < high.afterYear := by
  obtain ⟨hhour, hminute, hsecond, -⟩ := TimeOfDay.isValid_iff.mp hlow.time
  obtain ⟨hhour', hminute', hsecond', -⟩ := TimeOfDay.isValid_iff.mp hhigh.time
  have hdays : low.epochSeconds < high.epochSeconds ↔ low.date.ordinal < high.date.ordinal ∨
      low.date.ordinal = high.date.ordinal ∧ low.secondOfDay < high.secondOfDay := by
    rw [epochSeconds_eq hlow, epochSeconds_eq hhigh, Date.epochDay, Date.epochDay, secondOfDay,
      secondOfDay]
    omega
  have htime : low.secondOfDay < high.secondOfDay ↔ low.time.hour < high.time.hour ∨
      low.time.hour = high.time.hour ∧ (low.time.minute < high.time.minute ∨
        low.time.minute = high.time.minute ∧ low.time.second < high.time.second) := by
    rw [secondOfDay, secondOfDay]
    omega
  have hsame : low.date.ordinal = high.date.ordinal ↔ low.date.year = high.date.year ∧
      low.date.month = high.date.month ∧ low.date.day = high.date.day := by
    constructor
    · intro h
      rw [Date.eq_of_ordinal_eq hlow.date hhigh.date h]
      exact ⟨rfl, rfl, rfl⟩
    · rintro ⟨hyear, hmonth, hday⟩
      rw [Date.ordinal, Date.ordinal, hyear, hmonth, hday]
  rw [hdays, htime, hsame, Date.ordinal_lt_iff hlow.date hhigh.date]
  simp only [afterYear, List.cons_lt_cons_iff, List.not_lt_nil, and_false, or_false, and_or_left,
    and_assoc, or_assoc]

theorem literal_lt_iff (hlow : low.IsValid) (hhigh : high.IsValid) :
    low.literal < high.literal ↔ toString low.date.year < toString high.date.year ∨
      low.date.year = high.date.year ∧ low.epochSeconds < high.epochSeconds := by
  have hmark (wall : WallTime) : ∀ c ∈ (toString wall.date.year).toList, '-' < c := by
    intro c hc
    have hrange : '0'.toNat ≤ c.toNat := (Char.isDigit_iff_toNat.mp (isDigit_toString hc)).1
    exact lt_iff_toNat_lt.mpr (Nat.lt_of_lt_of_le (by decide) hrange)
  have hrest (hyear : low.date.year = high.date.year) :
      low.afterYear < high.afterYear ↔ low.epochSeconds < high.epochSeconds := by
    simp [epochSeconds_lt_iff hlow hhigh, hyear]
  rw [String.lt_iff_toList_lt, toList_literal, toList_literal,
    append_mark_lt_iff (hmark low) (hmark high), ← String.lt_iff_toList_lt, String.toList_inj,
    toString_nat_inj, afterYearText_lt_iff hlow hhigh]
  exact or_congr_right (and_congr_right hrest)

-- As texts, literals are in the order of their years as texts, and only those of one year in the
-- order of time.
theorem literal_le_iff (hlow : low.IsValid) (hhigh : high.IsValid) :
    low.literal ≤ high.literal ↔ toString low.date.year < toString high.date.year ∨
      low.date.year = high.date.year ∧ low.epochSeconds ≤ high.epochSeconds := by
  rw [← not_lt, literal_lt_iff hhigh hlow, not_or, not_and, not_lt, not_lt, le_iff_lt_or_eq,
    toString_nat_inj]
  constructor
  · rintro ⟨hless | hyear, hseconds⟩
    · exact .inl hless
    · exact .inr ⟨hyear, hseconds hyear.symm⟩
  · rintro (hless | ⟨hyear, hseconds⟩)
    · exact ⟨.inl hless, fun hyear => absurd (toString_nat_inj.mpr hyear.symm) (ne_of_lt hless)⟩
    · exact ⟨.inr hyear, fun _ => hseconds⟩

-- Years with equally many digits are in order as texts.
theorem literal_le_iff_of_length_eq (hlow : low.IsValid) (hhigh : high.IsValid)
    (hlength : (toString low.date.year).length = (toString high.date.year).length) :
    low.literal ≤ high.literal ↔ low.epochSeconds ≤ high.epochSeconds := by
  rw [← not_lt, literal_lt_iff hhigh hlow, toString_lt_iff hlength.symm, ← not_lt, not_iff_not,
    epochSeconds_lt_iff hhigh hlow]
  constructor
  · rintro (hyear | ⟨hyear, hrest⟩)
    · exact .inl hyear
    · exact hrest
  · rintro (hyear | ⟨hyear, hrest⟩)
    · exact .inl hyear
    · exact .inr ⟨hyear, .inr ⟨hyear, hrest⟩⟩

end WallTime

end TimePanel
