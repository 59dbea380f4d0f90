import Mathlib.Algebra.Order.Ring.Nat
import TimePanel.Calendar.Date

/-! Day numbers and dates determine each other. -/

namespace TimePanel

namespace Calendar

theorem isLeapYear_iff {year : Nat} :
    isLeapYear year = true ↔ year % 4 = 0 ∧ (year % 100 ≠ 0 ∨ year % 400 = 0) := by
  simp [isLeapYear]

def daysInYear (year : Nat) : Nat := if isLeapYear year then 366 else 365

theorem daysInYear_pos (year : Nat) : 365 ≤ daysInYear year := by
  unfold daysInYear
  split <;> omega

theorem daysBeforeYear_succ {year : Nat} (h : 1 ≤ year) :
    daysBeforeYear (year + 1) = daysBeforeYear year + daysInYear year := by
  obtain ⟨past, rfl⟩ := Nat.exists_eq_add_of_le' h
  have hfour : (past + 1) / 4 = past / 4 + if (past + 1) % 4 = 0 then 1 else 0 := by
    split <;> omega
  have hcentury : (past + 1) / 100 = past / 100 + if (past + 1) % 100 = 0 then 1 else 0 := by
    split <;> omega
  have hcycle : (past + 1) / 400 = past / 400 + if (past + 1) % 400 = 0 then 1 else 0 := by
    split <;> omega
  have hless : past / 100 ≤ past / 4 := by omega
  simp only [daysBeforeYear, daysInYear, isLeapYear_iff, Nat.add_sub_cancel, hfour, hcentury,
    hcycle]
  by_cases h4 : (past + 1) % 4 = 0
  · by_cases h100 : (past + 1) % 100 = 0
    · by_cases h400 : (past + 1) % 400 = 0
      · simp only [h4, h100, h400, if_true, ne_eq, not_true_eq_false, or_true, and_true]
        omega
      · simp only [h4, h100, h400, if_true, if_false, ne_eq, not_true_eq_false, or_false, and_false]
        omega
    · have h400 : (past + 1) % 400 ≠ 0 := by omega
      simp only [h4, h100, h400, if_true, if_false, ne_eq, not_false_eq_true, true_or, and_true]
      omega
  · have h100 : (past + 1) % 100 ≠ 0 := by omega
    have h400 : (past + 1) % 400 ≠ 0 := by omega
    simp only [h4, h100, h400, if_false, false_and]
    omega

theorem daysBeforeYear_mono {year later : Nat} (hyear : 1 ≤ year) (h : year ≤ later) :
    daysBeforeYear year ≤ daysBeforeYear later := by
  induction h with
  | refl => exact Nat.le_refl _
  | step h ih =>
      rw [daysBeforeYear_succ (Nat.le_trans hyear h)]
      omega

-- Every day lies in a year.
theorem exists_daysBeforeYear_le (day : Nat) :
    ∃ year, 1 ≤ year ∧ daysBeforeYear year ≤ day ∧ day < daysBeforeYear (year + 1) := by
  induction day with
  | zero => exact ⟨1, by decide⟩
  | succ day ih =>
      obtain ⟨year, hyear, hle, hlt⟩ := ih
      by_cases hlast : day + 1 < daysBeforeYear (year + 1)
      · exact ⟨year, hyear, by omega, hlast⟩
      · have hnext : daysBeforeYear (year + 1 + 1) = daysBeforeYear (year + 1) +
            daysInYear (year + 1) := daysBeforeYear_succ (by omega)
        have hlength := daysInYear_pos (year + 1)
        exact ⟨year + 1, by omega, by omega, by omega⟩

theorem length_monthLengths (year : Nat) : (monthLengths year).length = 12 := rfl

theorem sum_monthLengths (year : Nat) : (monthLengths year).sum = daysInYear year := by
  simp only [monthLengths, daysInYear, List.sum_cons, List.sum_nil]
  split <;> rfl

theorem daysInMonth_bounds (year : Nat) {month : Nat} (h1 : 1 ≤ month) (h12 : month ≤ 12) :
    28 ≤ daysInMonth year month ∧ daysInMonth year month ≤ 31 := by
  have hmonth : month - 1 < 12 := by omega
  unfold daysInMonth monthLengths
  generalize month - 1 = index at hmonth
  split <;> decide +revert

theorem daysBeforeMonth_eq_sum (year month : Nat) :
    daysBeforeMonth year month = ((monthLengths year).take (month - 1)).sum := by
  rw [daysBeforeMonth, List.sum_eq_foldl]

theorem daysBeforeMonth_succ {year month : Nat} (h1 : 1 ≤ month) (h12 : month ≤ 12) :
    daysBeforeMonth year (month + 1) = daysBeforeMonth year month + daysInMonth year month := by
  have hindex : month - 1 < (monthLengths year).length := by
    rw [length_monthLengths]
    omega
  rw [daysBeforeMonth_eq_sum, daysBeforeMonth_eq_sum, Nat.add_sub_cancel,
    ← Nat.sub_add_cancel h1, List.take_succ_eq_append_getElem hindex, List.sum_append, daysInMonth,
    Nat.sub_add_cancel h1, List.getElem?_eq_getElem hindex]
  simp

theorem daysBeforeMonth_one (year : Nat) : daysBeforeMonth year 1 = 0 := rfl

theorem daysBeforeMonth_thirteen (year : Nat) : daysBeforeMonth year 13 = daysInYear year := by
  rw [daysBeforeMonth_eq_sum, ← sum_monthLengths]
  rfl

theorem daysBeforeMonth_mono (year : Nat) {month later : Nat} (h1 : 1 ≤ month)
    (hle : month ≤ later) (h13 : later ≤ 13) :
    daysBeforeMonth year month + 28 * (later - month) ≤ daysBeforeMonth year later := by
  induction hle with
  | refl => omega
  | @step later hle ih =>
      have hbefore := ih (by omega)
      have hlength := (daysInMonth_bounds year (Nat.le_trans h1 hle) (by omega)).1
      have hnext : daysBeforeMonth year (later + 1) =
          daysBeforeMonth year later + daysInMonth year later :=
        daysBeforeMonth_succ (Nat.le_trans h1 hle) (by omega)
      rw [Nat.succ_eq_add_one]
      omega

theorem daysBeforeMonth_le (year : Nat) {month : Nat} (h1 : 1 ≤ month) (h12 : month ≤ 12) :
    daysBeforeMonth year month + daysInMonth year month ≤ daysInYear year := by
  rw [← daysBeforeMonth_succ h1 h12, daysBeforeMonth_eq_sum, ← sum_monthLengths]
  have hsplit := congrArg List.sum (List.take_append_drop (month + 1 - 1) (monthLengths year))
  rw [List.sum_append] at hsplit
  omega

-- Counting off lengths finds the part that a day lies in.
theorem locate_sum_take {lengths : List Nat} {index : Nat} (hindex : index < lengths.length)
    (month : Nat) {day : Nat} (hday : day < lengths[index]) :
    locate month ((lengths.take index).sum + day) lengths = (month + index, day) := by
  induction lengths generalizing month index with
  | nil => simp at hindex
  | cons length rest ih =>
      cases index with
      | zero =>
          rw [List.getElem_cons_zero] at hday
          simp [locate, hday]
      | succ index =>
          have hrest := ih (Nat.lt_of_succ_lt_succ hindex) (month + 1) hday
          have hlate : ¬ length + (rest.take index).sum + day < length := by omega
          have hleft : length + (rest.take index).sum + day - length =
              (rest.take index).sum + day := by omega
          rw [List.take_succ_cons, List.sum_cons, locate, if_neg hlate, hleft, hrest]
          simp only [Prod.mk.injEq, and_true]
          omega

-- A year by the cycles of 400, 100, 4 and 1 years before it.
theorem exists_cycles {year : Nat} (h : 1 ≤ year) :
    ∃ a b c e, b ≤ 3 ∧ c ≤ 24 ∧ e ≤ 3 ∧ year = 400 * a + 100 * b + 4 * c + e + 1 := by
  obtain ⟨past, rfl⟩ := Nat.exists_eq_add_of_le' h
  have hcenturies : past % 400 / 100 ≤ 3 := by omega
  have hfours : past % 100 / 4 ≤ 24 := by omega
  have hyears : past % 4 ≤ 3 := by omega
  refine ⟨past / 400, past % 400 / 100, past % 100 / 4, past % 4, hcenturies, hfours, hyears, ?_⟩
  omega

theorem daysBeforeYear_cycles {a b c e : Nat} (hb : b ≤ 3) (hc : c ≤ 24) (he : e ≤ 3) :
    daysBeforeYear (400 * a + 100 * b + 4 * c + e + 1) =
      146097 * a + (36524 * b + (1461 * c + 365 * e)) := by
  have hfour : (400 * a + 100 * b + 4 * c + e) / 4 = 100 * a + 25 * b + c := by omega
  have hcentury : (400 * a + 100 * b + 4 * c + e) / 100 = 4 * a + b := by omega
  have hcycle : (400 * a + 100 * b + 4 * c + e) / 400 = a := by omega
  simp only [daysBeforeYear, Nat.add_sub_cancel, hfour, hcentury, hcycle]
  omega

-- The last year of four, and of four centuries, is the only one that can have a day more.
theorem last_of_isLeapYear {a b c e : Nat} (hb : b ≤ 3) (he : e ≤ 3)
    (h : isLeapYear (400 * a + 100 * b + 4 * c + e + 1) = true) : e = 3 ∧ (c ≠ 24 ∨ b = 3) := by
  have hrule := isLeapYear_iff.mp h
  have hlast : e = 3 := by omega
  refine ⟨hlast, ?_⟩
  by_cases hfours : c = 24
  · right
    omega
  · exact Or.inl hfours

end Calendar

namespace Date

open Calendar

theorem isValid_iff {date : Date} :
    date.isValid = true ↔ 1 ≤ date.year ∧ date.year ≤ 9999 ∧ 1 ≤ date.month ∧ date.month ≤ 12 ∧
      1 ≤ date.day ∧ date.day ≤ daysInMonth date.year date.month := by
  simp only [isValid, Bool.and_eq_true, decide_eq_true_eq, and_assoc]
  exact Iff.rfl

theorem isValid_mk {year month day : Nat} (hyear : 1 ≤ year ∧ year ≤ 9999)
    (hmonth : 1 ≤ month ∧ month ≤ 12) (hday : 1 ≤ day ∧ day ≤ daysInMonth year month) :
    isValid ⟨year, month, day⟩ = true :=
  isValid_iff.mpr ⟨hyear.1, hyear.2, hmonth.1, hmonth.2, hday.1, hday.2⟩

theorem isValid_first {year month : Nat} (hyear : 1 ≤ year ∧ year ≤ 9999)
    (hmonth : 1 ≤ month ∧ month ≤ 12) : isValid ⟨year, month, 1⟩ = true := by
  have hlength := (daysInMonth_bounds year hmonth.1 hmonth.2).1
  exact isValid_mk hyear hmonth (by omega)

-- The cycles of the calendar, counted off, give back the year that a day lies in.
theorem ofOrdinal_daysBeforeYear {year rest : Nat} (hyear : 1 ≤ year)
    (hrest : rest < daysInYear year) :
    ofOrdinal (daysBeforeYear year + rest + 1) =
      ⟨year, (locate 1 rest (monthLengths year)).1, (locate 1 rest (monthLengths year)).2 + 1⟩ := by
  obtain ⟨a, b, c, e, hb, hc, he, rfl⟩ := exists_cycles hyear
  have hlong : rest < 365 ∨ rest = 365 ∧ e = 3 ∧ (c ≠ 24 ∨ b = 3) := by
    unfold daysInYear at hrest
    split at hrest
    · next hleap =>
      have hrule := last_of_isLeapYear hb he hleap
      omega
    · exact Or.inl hrest
  rw [daysBeforeYear_cycles hb hc he]
  have h1 : (146097 * a + (36524 * b + (1461 * c + 365 * e)) + rest) / 146097 = a := by omega
  have h2 : (146097 * a + (36524 * b + (1461 * c + 365 * e)) + rest) % 146097 =
      36524 * b + (1461 * c + 365 * e) + rest := by omega
  have h3 : min 3 ((36524 * b + (1461 * c + 365 * e) + rest) / 36524) = b := by omega
  have h4 : 36524 * b + (1461 * c + 365 * e) + rest - b * 36524 = 1461 * c + 365 * e + rest := by
    omega
  have h5 : (1461 * c + 365 * e + rest) / 1461 = c := by omega
  have h6 : (1461 * c + 365 * e + rest) % 1461 = 365 * e + rest := by omega
  have h7 : min 3 ((365 * e + rest) / 365) = e := by omega
  have h8 : 365 * e + rest - e * 365 = rest := by omega
  have h9 : a * 400 + b * 100 + c * 4 + e = 400 * a + 100 * b + 4 * c + e := by omega
  simp only [ofOrdinal, Nat.add_sub_cancel, h1, h2, h3, h4, h5, h6, h7, h8, h9]

theorem ofOrdinal_ordinal {date : Date} (h : date.isValid = true) :
    ofOrdinal date.ordinal = date := by
  obtain ⟨hyear, -, hmonth, hmonth', hday, hday'⟩ := isValid_iff.mp h
  obtain ⟨year, month, day⟩ := date
  dsimp only at hyear hmonth hmonth' hday hday'
  have hindex : month - 1 < (monthLengths year).length := by
    rw [length_monthLengths]
    omega
  have hlength : daysInMonth year month = (monthLengths year)[month - 1] := by
    rw [daysInMonth, List.getElem?_eq_getElem hindex, Option.getD_some]
  have hrest : daysBeforeMonth year month + (day - 1) < daysInYear year := by
    have hle : daysBeforeMonth year month + daysInMonth year month ≤ daysInYear year :=
      daysBeforeMonth_le year hmonth hmonth'
    omega
  have hordinal : ordinal ⟨year, month, day⟩ =
      daysBeforeYear year + (daysBeforeMonth year month + (day - 1)) + 1 := by
    simp only [ordinal]
    omega
  rw [hordinal, ofOrdinal_daysBeforeYear hyear hrest, daysBeforeMonth_eq_sum,
    locate_sum_take hindex 1 (by omega)]
  simp only [mk.injEq, true_and]
  omega

theorem eq_of_ordinal_eq {a b : Date} (ha : a.isValid = true) (hb : b.isValid = true)
    (h : a.ordinal = b.ordinal) : a = b := by
  rw [← ofOrdinal_ordinal ha, h, ofOrdinal_ordinal hb]

-- The months and the years are next to each other.
theorem ordinal_next_month {year month : Nat} (h1 : 1 ≤ month) (h12 : month ≤ 12) (day : Nat) :
    ordinal ⟨year, month + 1, day⟩ = ordinal ⟨year, month, day⟩ + daysInMonth year month := by
  simp only [ordinal, daysBeforeMonth_succ h1 h12]
  omega

theorem ordinal_next_year {year : Nat} (h : 1 ≤ year) (day : Nat) :
    ordinal ⟨year + 1, 1, day⟩ = ordinal ⟨year, 1, day⟩ + daysInYear year := by
  simp only [ordinal, daysBeforeYear_succ h, daysBeforeMonth_one]
  omega

theorem ordinal_after_december {year : Nat} (h : 1 ≤ year) (day : Nat) :
    ordinal ⟨year + 1, 1, day⟩ = ordinal ⟨year, 12, day⟩ + 31 := by
  have hdecember : daysBeforeMonth year 12 + 31 = daysInYear year := by
    rw [← daysBeforeMonth_thirteen, daysBeforeMonth_succ (by decide) (by decide)]
    rfl
  simp only [ordinal, daysBeforeYear_succ h, daysBeforeMonth_one]
  omega

-- Every date but the last has one after it.
theorem exists_next {date : Date} (h : date.isValid = true) (hlast : date ≠ ⟨9999, 12, 31⟩) :
    ∃ next : Date, next.isValid = true ∧ next.ordinal = date.ordinal + 1 := by
  obtain ⟨year, month, day⟩ := date
  obtain ⟨hyear, hyear', hmonth, hmonth', hday, hday'⟩ := isValid_iff.mp h
  dsimp only at hyear hyear' hmonth hmonth' hday hday'
  by_cases hinner : day < daysInMonth year month
  · refine ⟨⟨year, month, day + 1⟩, isValid_iff.mpr ?_, rfl⟩
    exact ⟨hyear, hyear', hmonth, hmonth', by simp, hinner⟩
  · have hend : day = daysInMonth year month := by omega
    by_cases hdecember : month = 12
    · subst hdecember
      have hday31 : day = 31 := hend
      have hnine : year ≠ 9999 := by
        rintro rfl
        exact hlast (by rw [hday31])
      refine ⟨⟨year + 1, 1, 1⟩, isValid_first (by omega) (by decide), ?_⟩
      rw [ordinal_after_december hyear]
      simp only [ordinal]
      omega
    · refine ⟨⟨year, month + 1, 1⟩, isValid_first ⟨hyear, hyear'⟩ (by omega), ?_⟩
      rw [ordinal_next_month hmonth hmonth']
      simp only [ordinal]
      omega

theorem exists_ordinal_eq {n : Nat} (h1 : 1 ≤ n) (hlast : n ≤ lastOrdinal) :
    ∃ date : Date, date.isValid = true ∧ date.ordinal = n := by
  induction h1 with
  | refl => exact ⟨⟨1, 1, 1⟩, by decide, by decide⟩
  | step h1 ih =>
      obtain ⟨date, hvalid, rfl⟩ := ih (Nat.le_of_succ_le hlast)
      apply exists_next hvalid
      rintro rfl
      revert hlast
      decide

theorem isValid_ofOrdinal {n : Nat} (h1 : 1 ≤ n) (hlast : n ≤ lastOrdinal) :
    (ofOrdinal n).isValid = true := by
  obtain ⟨date, hvalid, rfl⟩ := exists_ordinal_eq h1 hlast
  rwa [ofOrdinal_ordinal hvalid]

theorem ordinal_ofOrdinal {n : Nat} (h1 : 1 ≤ n) (hlast : n ≤ lastOrdinal) :
    (ofOrdinal n).ordinal = n := by
  obtain ⟨date, hvalid, rfl⟩ := exists_ordinal_eq h1 hlast
  rw [ofOrdinal_ordinal hvalid]

-- The first days of the month and of the year that a date lies in.
def monthStart (date : Date) : Date := { date with day := 1 }

def yearStart (date : Date) : Date := { date with month := 1, day := 1 }

-- The first days of the month and of the year before those.
def previousMonth (date : Date) : Date :=
  if date.month = 1 then ⟨date.year - 1, 12, 1⟩ else ⟨date.year, date.month - 1, 1⟩

def previousYear (date : Date) : Date := ⟨date.year - 1, 1, 1⟩

theorem ordinal_eq_monthStart (date : Date) :
    date.ordinal + 1 = date.monthStart.ordinal + date.day := by
  simp only [ordinal, monthStart]
  omega

theorem ordinal_previousMonth {date : Date} (h : date.isValid = true) (hyear : 1 < date.year) :
    date.monthStart.ordinal = date.previousMonth.ordinal +
      daysInMonth date.previousMonth.year date.previousMonth.month := by
  obtain ⟨-, -, hmonth, hmonth', -, -⟩ := isValid_iff.mp h
  obtain ⟨year, month, day⟩ := date
  dsimp only at hyear hmonth hmonth'
  by_cases hjanuary : month = 1
  · obtain ⟨past, rfl⟩ := Nat.exists_eq_add_of_le' (Nat.le_of_lt hyear)
    simp only [monthStart, previousMonth, hjanuary, if_true, Nat.add_sub_cancel]
    exact ordinal_after_december (by omega) 1
  · obtain ⟨before, rfl⟩ := Nat.exists_eq_add_of_le' hmonth
    simp only [monthStart, previousMonth, hjanuary, if_false, Nat.add_sub_cancel]
    exact ordinal_next_month (by omega) (by omega) 1

theorem ordinal_previousYear {date : Date} (hyear : 1 < date.year) :
    date.yearStart.ordinal = date.previousYear.ordinal + daysInYear (date.year - 1) := by
  obtain ⟨past, hpast⟩ := Nat.exists_eq_add_of_le' (Nat.le_of_lt hyear)
  simp only [yearStart, previousYear, hpast, Nat.add_sub_cancel]
  exact ordinal_next_year (by omega) 1

theorem isValid_previousMonth {date : Date} (h : date.isValid = true) (hyear : 1 < date.year) :
    date.previousMonth.isValid = true := by
  obtain ⟨-, hyear', hmonth, hmonth', -, -⟩ := isValid_iff.mp h
  unfold previousMonth
  split
  · exact isValid_first (by omega) (by decide)
  · exact isValid_first (by omega) (by omega)

-- A month is known from any of its days.
theorem monthStart_eq {date start : Date} (h : date.isValid = true) (hstart : start.isValid = true)
    (hfirst : start.day = 1) (hle : start.ordinal ≤ date.ordinal)
    (hlt : date.ordinal < start.ordinal + daysInMonth start.year start.month) :
    date.monthStart = start := by
  obtain ⟨hyear, hyear', hmonth, hmonth', -, -⟩ := isValid_iff.mp hstart
  obtain ⟨year, month, first⟩ := start
  obtain rfl : first = 1 := hfirst
  obtain ⟨past, hpast⟩ := Nat.exists_eq_add_of_le hle
  have hday : past + 1 ≤ daysInMonth year month := by
    dsimp only at hlt
    omega
  have hsame : date = ⟨year, month, past + 1⟩ := by
    apply eq_of_ordinal_eq h
    · exact isValid_mk ⟨hyear, hyear'⟩ ⟨hmonth, hmonth'⟩ ⟨Nat.le_add_left 1 past, hday⟩
    · rw [hpast]
      simp only [ordinal]
      omega
  rw [hsame, monthStart]

theorem yearStart_eq {date : Date} {year : Nat} (h : date.isValid = true) (hyear : 1 ≤ year)
    (hle : ordinal ⟨year, 1, 1⟩ ≤ date.ordinal)
    (hlt : date.ordinal < ordinal ⟨year, 1, 1⟩ + daysInYear year) :
    date.yearStart = ⟨year, 1, 1⟩ := by
  obtain ⟨past, hpast⟩ := Nat.exists_eq_add_of_le hle
  have hordinal : date.ordinal = daysBeforeYear year + past + 1 := by
    have hfirst : ordinal ⟨year, 1, 1⟩ = daysBeforeYear year + 1 := rfl
    omega
  rw [← ofOrdinal_ordinal h, hordinal, ofOrdinal_daysBeforeYear hyear (by omega), yearStart]

theorem ordinal_lt_yearStart {date : Date} (h : date.isValid = true) :
    date.yearStart.ordinal ≤ date.ordinal ∧
      date.ordinal < date.yearStart.ordinal + daysInYear date.year := by
  obtain ⟨-, -, hmonth, hmonth', hday, hday'⟩ := isValid_iff.mp h
  have hle := daysBeforeMonth_le date.year hmonth hmonth'
  simp only [ordinal, yearStart, daysBeforeMonth_one]
  omega

theorem ordinal_lt_of_year_lt {date later : Date} (h : date.isValid = true)
    (hlater : later.isValid = true) (hyear : date.year < later.year) :
    date.ordinal < later.ordinal := by
  obtain ⟨hfirst, -, -, -, -, -⟩ := isValid_iff.mp h
  have hlast := (ordinal_lt_yearStart h).2
  have hnext := (ordinal_lt_yearStart hlater).1
  have hyears : daysBeforeYear (date.year + 1) ≤ daysBeforeYear later.year :=
    daysBeforeYear_mono (by omega) hyear
  rw [daysBeforeYear_succ hfirst] at hyears
  simp only [yearStart, ordinal, daysBeforeMonth_one] at hlast hnext ⊢
  omega

theorem ordinal_lt_of_month_lt {date later : Date} (h : date.isValid = true)
    (hlater : later.isValid = true) (hyear : date.year = later.year)
    (hmonth : date.month < later.month) : date.ordinal < later.ordinal := by
  obtain ⟨-, -, hfirst, hlast, -, hday⟩ := isValid_iff.mp h
  obtain ⟨-, -, -, hlast', hday', -⟩ := isValid_iff.mp hlater
  have hmonths := daysBeforeMonth_mono date.year (Nat.le_add_left 1 date.month) hmonth (by omega)
  rw [daysBeforeMonth_succ hfirst hlast] at hmonths
  rw [ordinal, ordinal, ← hyear]
  omega

-- Dates are in the order of their years, in one year of their months, and in one month of their
-- days.
theorem ordinal_lt_iff {date later : Date} (h : date.isValid = true)
    (hlater : later.isValid = true) :
    date.ordinal < later.ordinal ↔ date.year < later.year ∨ date.year = later.year ∧
      (date.month < later.month ∨ date.month = later.month ∧ date.day < later.day) := by
  rcases Nat.lt_trichotomy date.year later.year with hyear | hyear | hyear
  · simp [hyear, ordinal_lt_of_year_lt h hlater hyear]
  · rcases Nat.lt_trichotomy date.month later.month with hmonth | hmonth | hmonth
    · simp [hyear, hmonth, ordinal_lt_of_month_lt h hlater hyear hmonth]
    · simp [ordinal, hyear, hmonth]
    · have hback := ordinal_lt_of_month_lt hlater h hyear.symm hmonth
      omega
  · have hback := ordinal_lt_of_year_lt hlater h hyear
    omega

-- Only the last day of a leap year comes after 365 others.
theorem ordinal_eq_yearStart_add_iff {date : Date} (h : date.isValid = true) :
    date.ordinal = date.yearStart.ordinal + 365 ↔
      isLeapYear date.year = true ∧ date.month = 12 ∧ date.day = 31 := by
  obtain ⟨hyear, hyear', -, -, -, -⟩ := isValid_iff.mp h
  have hlast : ordinal ⟨date.year, 12, 31⟩ + 1 = date.yearStart.ordinal + daysInYear date.year := by
    have hnext := ordinal_after_december hyear 1
    rw [ordinal_next_year hyear] at hnext
    rw [yearStart, hnext]
    simp only [ordinal]
  constructor
  · intro hordinal
    have hleap : isLeapYear date.year = true := by
      have hlt := (ordinal_lt_yearStart h).2
      unfold daysInYear at hlt
      split at hlt
      · assumption
      · omega
    have hsame : date = ⟨date.year, 12, 31⟩ := by
      apply eq_of_ordinal_eq h
      · exact isValid_mk ⟨hyear, hyear'⟩ (by decide) ⟨by decide, Nat.le_refl 31⟩
      · rw [daysInYear, if_pos hleap] at hlast
        omega
    exact ⟨hleap, by rw [hsame], by rw [hsame]⟩
  · rintro ⟨hleap, hmonth, hday⟩
    have hsame : date = ⟨date.year, 12, 31⟩ := by
      rw [← hmonth, ← hday]
    have hordinal := congrArg ordinal hsame
    rw [daysInYear, if_pos hleap] at hlast
    omega

theorem isValid_monthStart {date : Date} (h : date.isValid = true) :
    date.monthStart.isValid = true := by
  obtain ⟨hyear, hyear', hmonth, hmonth', -, -⟩ := isValid_iff.mp h
  exact isValid_first ⟨hyear, hyear'⟩ ⟨hmonth, hmonth'⟩

theorem isValid_yearStart {date : Date} (h : date.isValid = true) :
    date.yearStart.isValid = true := by
  obtain ⟨hyear, hyear', -, -, -, -⟩ := isValid_iff.mp h
  exact isValid_first ⟨hyear, hyear'⟩ (by decide)

theorem ordinal_bounds {date : Date} (h : date.isValid = true) :
    1 ≤ date.ordinal ∧ date.ordinal ≤ lastOrdinal := by
  obtain ⟨hyear, hyear', -, -, hday, -⟩ := isValid_iff.mp h
  have hlt := (ordinal_lt_yearStart h).2
  have hnext := ordinal_next_year hyear 1
  have hend : ordinal ⟨date.year + 1, 1, 1⟩ ≤ lastOrdinal + 1 := by
    simp only [ordinal, daysBeforeYear, daysBeforeMonth_one, Nat.add_sub_cancel, lastOrdinal]
    omega
  simp only [yearStart] at hlt
  refine ⟨?_, by omega⟩
  simp only [ordinal]
  omega

-- Thirty days before a date lies another month, unless the date is the 31st. It is the month before
-- unless that one is too short.
theorem monthStart_thirty_days_before {date earlier : Date} (h : date.isValid = true)
    (hearlier : earlier.isValid = true) (hyear : 1 < date.year)
    (hback : earlier.ordinal + 30 = date.ordinal) :
    (earlier.monthStart.ordinal < date.monthStart.ordinal ↔ date.day ≤ 30) ∧
      (earlier.monthStart.ordinal = date.previousMonth.ordinal ↔
        date.day ≤ 30 ∧
          31 ≤ date.day + daysInMonth date.previousMonth.year date.previousMonth.month) := by
  have hstart := ordinal_eq_monthStart date
  have hstartEarlier := ordinal_eq_monthStart earlier
  have hprevious := ordinal_previousMonth h hyear
  have hvalidPrevious := isValid_previousMonth h hyear
  obtain ⟨-, -, hmonth, hmonth', hday, hday'⟩ := isValid_iff.mp h
  obtain ⟨-, -, -, -, hdayEarlier, -⟩ := isValid_iff.mp hearlier
  obtain ⟨-, -, hmonthBefore, hmonthBefore', -, -⟩ := isValid_iff.mp hvalidPrevious
  have hlength := (daysInMonth_bounds date.year hmonth hmonth').2
  have hlengthBefore := (daysInMonth_bounds date.previousMonth.year hmonthBefore hmonthBefore').1
  have hsame : date.day = 31 → earlier.monthStart = date.monthStart := by
    intro hlast
    exact monthStart_eq hearlier (isValid_monthStart h) rfl (by omega)
      (by simp only [monthStart] at *; omega)
  have hbefore : date.day ≤ 30 →
      31 ≤ date.day + daysInMonth date.previousMonth.year date.previousMonth.month →
      earlier.monthStart = date.previousMonth := by
    intro hle hlong
    have hfirst : date.previousMonth.day = 1 := by
      unfold previousMonth
      split <;> rfl
    exact monthStart_eq hearlier hvalidPrevious hfirst (by omega) (by omega)
  by_cases hlast : date.day = 31
  · rw [hsame hlast]
    omega
  · refine ⟨by omega, fun heq => ⟨by omega, by omega⟩, ?_⟩
    rintro ⟨hle, hlong⟩
    rw [hbefore hle hlong]

-- The same for years: 365 days before the last day of a leap year it is still the same year.
theorem yearStart_year_before {date earlier : Date} (h : date.isValid = true)
    (hearlier : earlier.isValid = true) (hyear : 1 < date.year)
    (hback : earlier.ordinal + 365 = date.ordinal) :
    (earlier.yearStart.ordinal < date.yearStart.ordinal ↔
        ¬ (isLeapYear date.year = true ∧ date.month = 12 ∧ date.day = 31)) ∧
      (earlier.yearStart.ordinal = date.previousYear.ordinal ↔
        ¬ (isLeapYear date.year = true ∧ date.month = 12 ∧ date.day = 31)) := by
  rw [← ordinal_eq_yearStart_add_iff h]
  obtain ⟨hle, hlt⟩ := ordinal_lt_yearStart h
  have hprevious := ordinal_previousYear hyear
  have hlength := daysInYear_pos (date.year - 1)
  have hlongest : daysInYear date.year ≤ 366 := by
    unfold daysInYear
    split <;> omega
  by_cases hlast : date.ordinal = date.yearStart.ordinal + 365
  · have hsame : earlier.yearStart = date.yearStart :=
      yearStart_eq hearlier (by omega) (by simp only [yearStart] at *; omega)
        (by simp only [yearStart] at *; omega)
    rw [hsame]
    omega
  · have hbefore : earlier.yearStart = date.previousYear :=
      yearStart_eq hearlier (by omega) (by simp only [previousYear] at *; omega)
        (by simp only [previousYear] at *; omega)
    rw [hbefore]
    omega

end Date

end TimePanel
