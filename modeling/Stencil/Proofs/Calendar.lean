import Mathlib.Logic.Function.Iterate
import Stencil.Clock

/-!
# The calendar

The date of an instant is found by dividing. Here one day is told after the other instead, from the
lengths of the months and the leap years of the Gregorian calendar. Both ways give the same dates.
-/

set_option autoImplicit false

namespace Stencil.CalendarDay

/-- Every fourth year has a leap day, but of the last years of the centuries only every fourth. -/
def IsLeapYear (year : Nat) : Prop :=
  year % 4 = 0 ∧ (year % 100 = 0 → year % 400 = 0)

instance : DecidablePred IsLeapYear :=
  fun _ => inferInstanceAs (Decidable (_ ∧ _))

def monthLength (year month : Nat) : Nat :=
  if month = 2 then if IsLeapYear year then 29 else 28
  else if month = 4 ∨ month = 6 ∨ month = 9 ∨ month = 11 then 30
  else 31

/-- The day after a day. -/
def next (today : CalendarDay) : CalendarDay :=
  if today.day < monthLength today.year today.month then { today with day := today.day + 1 }
  else if today.month < 12 then { today with month := today.month + 1, day := 1 }
  else ⟨today.year + 1, 1, 1⟩

private theorem monthLength_pos (year month : Nat) : 0 < monthLength year month := by
  simp only [monthLength]
  repeat' split
  all_goals decide

/-! ### Years that start with March

The leap day is the last one of such a year, so that only the length of its last month varies. -/

/-- The days before a month, the months counted from March on. -/
def daysBeforeMonth (month : Nat) : Nat :=
  (153 * month + 2) / 5

/-- A day by its month and the days of the month before it. -/
def ofMonth (year month day : Nat) : CalendarDay :=
  ⟨if month < 10 then year else year + 1, if month < 10 then month + 3 else month - 9, day + 1⟩

def marchMonthLength (year month : Nat) : Nat :=
  monthLength (ofMonth year month 0).year (ofMonth year month 0).month

def marchYearLength (year : Nat) : Nat :=
  daysBeforeMonth 11 + marchMonthLength year 11

theorem marchYearLength_eq (year : Nat) :
    marchYearLength year = if IsLeapYear (year + 1) then 366 else 365 := by
  change 337 + (if IsLeapYear (year + 1) then 29 else 28) = _
  split <;> rfl

private theorem marchYearLength_pos (year : Nat) : 0 < marchYearLength year :=
  Nat.add_pos_right _ (monthLength_pos _ _)

private theorem eq_of_lt_eleven {month : Nat} (early : month < 11) :
    month = 0 ∨ month = 1 ∨ month = 2 ∨ month = 3 ∨ month = 4 ∨ month = 5 ∨ month = 6 ∨
      month = 7 ∨ month = 8 ∨ month = 9 ∨ month = 10 := by
  omega

theorem daysBeforeMonth_succ (year : Nat) {month : Nat} (early : month < 11) :
    daysBeforeMonth (month + 1) = daysBeforeMonth month + marchMonthLength year month := by
  rcases eq_of_lt_eleven early with
    rfl | rfl | rfl | rfl | rfl | rfl | rfl | rfl | rfl | rfl | rfl <;> rfl

private theorem daysBeforeMonth_add_le (year : Nat) {month : Nat} (few : month < 12) :
    daysBeforeMonth month + marchMonthLength year month ≤ daysBeforeMonth (month + 1) := by
  rcases Nat.lt_succ_iff_lt_or_eq.mp few with early | rfl
  · exact Nat.le_of_eq (daysBeforeMonth_succ year early).symm
  · change 337 + (if IsLeapYear (year + 1) then 29 else 28) ≤ 367
    split <;> decide

private theorem daysBeforeMonth_add_lt {year month day : Nat} (few : month < 12)
    (within : day < marchMonthLength year month) :
    daysBeforeMonth month + day < marchYearLength year := by
  rcases Nat.lt_succ_iff_lt_or_eq.mp few with early | rfl
  · have full := daysBeforeMonth_succ year early
    have ordered : daysBeforeMonth (month + 1) ≤ daysBeforeMonth 11 := by
      simp only [daysBeforeMonth]
      omega
    rw [marchYearLength]
    omega
  · exact Nat.add_lt_add_left within _

private theorem exists_month {year day : Nat} (within : day < marchYearLength year) :
    ∃ month dayOfMonth, month < 12 ∧ dayOfMonth < marchMonthLength year month ∧
      day = daysBeforeMonth month + dayOfMonth := by
  have most : marchYearLength year ≤ 366 := by
    rw [marchYearLength_eq]
    split <;> decide
  have few : (5 * day + 2) / 153 < 12 := by omega
  have after : daysBeforeMonth ((5 * day + 2) / 153) ≤ day := by
    simp only [daysBeforeMonth]
    omega
  refine ⟨(5 * day + 2) / 153, day - daysBeforeMonth ((5 * day + 2) / 153), few, ?_,
    (Nat.add_sub_cancel' after).symm⟩
  rcases Nat.lt_succ_iff_lt_or_eq.mp few with early | last
  · have full := daysBeforeMonth_succ year early
    have before : day < daysBeforeMonth ((5 * day + 2) / 153 + 1) := by
      simp only [daysBeforeMonth]
      omega
    omega
  · rw [last] at after ⊢
    rw [marchYearLength] at within
    omega

theorem ofMarchYear_daysBeforeMonth {year month day : Nat} (few : month < 12)
    (within : day < marchMonthLength year month) :
    ofMarchYear year (daysBeforeMonth month + day) = ofMonth year month day := by
  have room := daysBeforeMonth_add_le year few
  have same : (5 * (daysBeforeMonth month + day) + 2) / 153 = month := by
    simp only [daysBeforeMonth] at room ⊢
    omega
  have passed : daysBeforeMonth month + day - (153 * month + 2) / 5 = day :=
    Nat.add_sub_cancel_left (daysBeforeMonth month) day
  rw [ofMarchYear, same, passed, ofMonth]
  by_cases early : month < 10
  · have late : ¬ month + 3 ≤ 2 := by omega
    simp only [if_pos early, if_neg late, Nat.add_zero]
  · have late : month - 9 ≤ 2 := by omega
    simp only [if_neg early, if_pos late]

private theorem next_ofMonth {year month day : Nat} (few : month < 12) :
    (ofMonth year month day).next =
      if day + 1 < marchMonthLength year month then ofMonth year month (day + 1)
      else if month < 11 then ofMonth year (month + 1) 0
      else ofMonth (year + 1) 0 0 := by
  by_cases more : day + 1 < marchMonthLength year month
  · rw [if_pos more]
    exact if_pos more
  · rw [if_neg more]
    refine (if_neg more).trans ?_
    rcases Nat.lt_succ_iff_lt_or_eq.mp few with early | rfl
    · rcases eq_of_lt_eleven early with
        rfl | rfl | rfl | rfl | rfl | rfl | rfl | rfl | rfl | rfl | rfl <;> rfl
    · rfl

/-- After a day comes the next one of its year, and after the last one the first of March. -/
theorem next_ofMarchYear {year day : Nat} (within : day < marchYearLength year) :
    (ofMarchYear year day).next =
      if day + 1 < marchYearLength year then ofMarchYear year (day + 1)
      else ofMarchYear (year + 1) 0 := by
  obtain ⟨month, dayOfMonth, few, inMonth, rfl⟩ := exists_month within
  rw [ofMarchYear_daysBeforeMonth few inMonth, next_ofMonth few]
  by_cases more : dayOfMonth + 1 < marchMonthLength year month
  · rw [if_pos more, Nat.add_assoc, if_pos (daysBeforeMonth_add_lt few more),
      ofMarchYear_daysBeforeMonth few more]
  · rw [if_neg more]
    rcases Nat.lt_succ_iff_lt_or_eq.mp few with early | rfl
    · have first : daysBeforeMonth month + dayOfMonth + 1 = daysBeforeMonth (month + 1) + 0 := by
        have full := daysBeforeMonth_succ year early
        omega
      have nonempty : 0 < marchMonthLength year (month + 1) := monthLength_pos _ _
      rw [if_pos early, first, if_pos (daysBeforeMonth_add_lt (Nat.succ_lt_succ early) nonempty),
        ofMarchYear_daysBeforeMonth (Nat.succ_lt_succ early) nonempty]
    · have last : ¬ daysBeforeMonth 11 + dayOfMonth + 1 < marchYearLength year := by
        rw [marchYearLength]
        omega
      rw [if_neg last]
      rfl

/-! ### Cycles of 400 years -/

theorem marchYearLength_add_cycles (cycle year : Nat) :
    marchYearLength (cycle * 400 + year) = marchYearLength year := by
  have same : IsLeapYear (cycle * 400 + year + 1) ↔ IsLeapYear (year + 1) := by
    simp only [IsLeapYear]
    omega
  simp only [marchYearLength_eq, same]

theorem daysBefore_succ {year : Nat} (fewer : year < 399) :
    daysBefore (year + 1) = daysBefore year + marchYearLength year := by
  rw [marchYearLength_eq]
  by_cases leap : IsLeapYear (year + 1)
  · rw [if_pos leap]
    simp only [daysBefore, IsLeapYear] at leap ⊢
    omega
  · rw [if_neg leap]
    simp only [daysBefore, IsLeapYear] at leap ⊢
    omega

private theorem daysBefore_last : daysBefore 399 + marchYearLength 399 = 146097 := rfl

private theorem daysBefore_add_lt {year day : Nat} (fewer : year < 400)
    (within : day < marchYearLength year) : daysBefore year + day < 146097 := by
  rcases Nat.lt_succ_iff_lt_or_eq.mp fewer with early | rfl
  · have full := daysBefore_succ early
    have ordered : daysBefore (year + 1) ≤ 146097 := by
      simp only [daysBefore]
      omega
    omega
  · have full := daysBefore_last
    omega

private theorem yearOfCycle_daysBefore {year day : Nat} (fewer : year < 400)
    (within : day < marchYearLength year) : yearOfCycle (daysBefore year + day) = year := by
  -- A year is its century, its group of four years there and its place in the group.
  obtain ⟨century, group, single, few, fewGroups, fewSingles, rfl⟩ :
      ∃ century group single, century < 4 ∧ group < 25 ∧ single < 4 ∧
        year = 100 * century + 4 * group + single :=
    ⟨year / 100, year % 100 / 4, year % 4, by omega⟩
  have before : daysBefore (100 * century + 4 * group + single) =
      36524 * century + 1461 * group + 365 * single := by
    simp only [daysBefore]
    omega
  have leapDay : day < 365 ∨ day = 365 ∧ single = 3 ∧ (group = 24 → century = 3) := by
    rw [marchYearLength_eq] at within
    by_cases leap : IsLeapYear (100 * century + 4 * group + single + 1)
    · rw [if_pos leap] at within
      simp only [IsLeapYear] at leap
      omega
    · rw [if_neg leap] at within
      exact .inl within
  clear within fewer
  -- The quotients count the leap days so far: the first one is ahead by a day at the end of some
  -- years, and the two others differ from the centuries only on the last day of the cycle.
  have fours : (36524 * century + 1461 * group + 365 * single + day) / 1460 =
      25 * century + group +
        if 1460 ≤ 24 * century + group + 365 * single + day then 1 else 0 := by
    split <;> omega
  have hundreds : (36524 * century + 1461 * group + 365 * single + day) / 36524 =
      century + (36524 * century + 1461 * group + 365 * single + day) / 146096 := by
    by_cases early : 1461 * group + 365 * single + day < 36524 <;> omega
  rw [before, yearOfCycle, fours, hundreds]
  split <;> omega

/-- The place of a day: its cycle, its year there and the days of the year before it. -/
structure LiesAt (count cycle year day : Nat) : Prop where
  inCycle : year < 400
  inYear : day < marchYearLength year
  counted : count = cycle * 146097 + (daysBefore year + day)

namespace LiesAt

variable {count cycle year day : Nat}

/-- The next day lies in the same year, unless a year starts with it; that may be the first one of
the next cycle. -/
theorem succ (place : LiesAt count cycle year day) :
    (day + 1 < marchYearLength year ∧ LiesAt (count + 1) cycle year (day + 1)) ∨
      (¬ day + 1 < marchYearLength year ∧ ∃ later first,
        later * 400 + first = cycle * 400 + year + 1 ∧ LiesAt (count + 1) later first 0) := by
  obtain ⟨fewer, within, rfl⟩ := place
  by_cases more : day + 1 < marchYearLength year
  · exact .inl ⟨more, fewer, more, by omega⟩
  · refine .inr ⟨more, ?_⟩
    rcases Nat.lt_succ_iff_lt_or_eq.mp fewer with early | rfl
    · have full := daysBefore_succ early
      exact ⟨cycle, year + 1, by omega, by omega, marchYearLength_pos _, by omega⟩
    · have full := daysBefore_last
      have none : daysBefore 0 = 0 := rfl
      exact ⟨cycle + 1, 0, by omega, by omega, marchYearLength_pos _, by omega⟩

theorem ofDays_eq {days : Nat} (place : LiesAt (days + 719468) cycle year day) :
    ofDays days = ofMarchYear (cycle * 400 + year) day := by
  have inCycle := daysBefore_add_lt place.inCycle place.inYear
  have counted := place.counted
  have passed : (days + 719468) / 146097 = cycle := by omega
  have left : (days + 719468) % 146097 = daysBefore year + day := by omega
  rw [ofDays, passed, left, yearOfCycle_daysBefore place.inCycle place.inYear,
    Nat.add_sub_cancel_left]

end LiesAt

theorem exists_liesAt (count : Nat) : ∃ cycle year day, LiesAt count cycle year day := by
  induction count with
  | zero => exact ⟨0, 0, 0, by decide, by decide, rfl⟩
  | succ count ih =>
    obtain ⟨cycle, year, day, place⟩ := ih
    rcases place.succ with ⟨-, next⟩ | ⟨-, later, first, -, next⟩
    · exact ⟨cycle, year, day + 1, next⟩
    · exact ⟨later, first, 0, next⟩

/-! ### Dates -/

theorem ofDays_succ (days : Nat) : ofDays (days + 1) = (ofDays days).next := by
  obtain ⟨cycle, year, day, place⟩ := exists_liesAt (days + 719468)
  have length := marchYearLength_add_cycles cycle year
  rw [place.ofDays_eq, next_ofMarchYear (length.symm ▸ place.inYear), length]
  have step := place.succ
  rw [Nat.add_right_comm] at step
  rcases step with ⟨more, next⟩ | ⟨last, later, first, same, next⟩
  · rw [if_pos more, next.ofDays_eq]
  · rw [if_neg last, next.ofDays_eq, same]

/-- The date of a day is the one that is reached from the first of January 1970 by going on from day
to day. -/
theorem ofDays_eq_iterate (days : Nat) : ofDays days = next^[days] ⟨1970, 1, 1⟩ := by
  induction days with
  | zero => rfl
  | succ days ih => rw [ofDays_succ, ih, Function.iterate_succ_apply']

example : ofDays 11016 = ⟨2000, 2, 29⟩ := by decide

end Stencil.CalendarDay
