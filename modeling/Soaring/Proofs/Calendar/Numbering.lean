import Mathlib.Tactic.IntervalCases
import Soaring.Calendar.Day

/-!
The numbering of days against the calendar. One day follows the other by the lengths of months and
years alone, and the number goes up by one with each. Every number is that of exactly one day of the
calendar, and the day computed from it is that one.
-/
namespace Soaring.Calendar

theorem daysInMonth_le (year : Int) (month : Nat) : daysInMonth year month ≤ 31 := by
  unfold daysInMonth
  split <;> (try split) <;> decide

/-- A number that names no month has no days, so no real day lies in it. -/
theorem daysInMonth_pos_iff {year : Int} {month : Nat} :
    0 < daysInMonth year month ↔ 1 ≤ month ∧ month ≤ 12 := by
  constructor
  · intro h
    by_contra hMonth
    have hNone : daysInMonth year month = 0 := by
      unfold daysInMonth
      split <;> first | rfl | omega
    omega
  · rintro ⟨hLow, hHigh⟩
    interval_cases month <;> simp only [daysInMonth] <;> (try split) <;> decide

/-- A year has a 29th of February if four divides it, unless it is a century that is no multiple of
four. -/
theorem isLeapYear_iff {year : Int} :
    isLeapYear year = true ↔ year % 4 = 0 ∧ (year % 100 ≠ 0 ∨ year % 400 = 0) := by
  simp [isLeapYear]

namespace Day

attribute [ext] Day

theorem isReal_iff {d : Day} :
    d.isReal = true ↔ 1 ≤ d.day ∧ d.day ≤ daysInMonth d.year d.month := by
  simp [isReal]

theorem month_of_isReal {d : Day} (h : d.isReal = true) : 1 ≤ d.month ∧ d.month ≤ 12 := by
  obtain ⟨hLow, hHigh⟩ := isReal_iff.mp h
  exact daysInMonth_pos_iff.mp (Nat.lt_of_lt_of_le hLow hHigh)

/-- A day of the calendar by its three numbers and their ranges. -/
theorem exists_of_isReal {d : Day} (h : d.isReal = true) :
    ∃ year month day, d = ⟨year, month, day⟩ ∧ 1 ≤ month ∧ month ≤ 12 ∧
      1 ≤ day ∧ day ≤ daysInMonth year month := by
  obtain ⟨hFirst, hLast⟩ := month_of_isReal h
  exact ⟨d.year, d.month, d.day, rfl, hFirst, hLast, isReal_iff.mp h⟩

/-- The day after: the next one of the month, or the first of the next month, which may be in the
next year. -/
def next (d : Day) : Day :=
  if d.day < daysInMonth d.year d.month then { d with day := d.day + 1 }
  else if d.month < 12 then ⟨d.year, d.month + 1, 1⟩
  else ⟨d.year + 1, 1, 1⟩

def previous (d : Day) : Day :=
  if 1 < d.day then { d with day := d.day - 1 }
  else if 1 < d.month then ⟨d.year, d.month - 1, daysInMonth d.year (d.month - 1)⟩
  else ⟨d.year - 1, 12, 31⟩

/-- A real day is followed by a real day, also at the end of a month or a year. -/
theorem isReal_next {d : Day} (h : d.isReal = true) : d.next.isReal = true := by
  obtain ⟨hLow, hHigh⟩ := isReal_iff.mp h
  obtain ⟨hFirst, hLast⟩ := month_of_isReal h
  rw [isReal_iff]
  unfold next
  split
  · next hRoom => exact ⟨by simp, hRoom⟩
  · split
    · next hMonth => exact ⟨Nat.le_refl 1, daysInMonth_pos_iff.mpr ⟨by simp, hMonth⟩⟩
    · exact ⟨Nat.le_refl 1, by simp [daysInMonth]⟩

/-- A real day follows a real day, also on the first of a month or a year. -/
theorem isReal_previous {d : Day} (h : d.isReal = true) : d.previous.isReal = true := by
  obtain ⟨hLow, hHigh⟩ := isReal_iff.mp h
  obtain ⟨hFirst, hLast⟩ := month_of_isReal h
  rw [isReal_iff]
  unfold previous
  split
  · next hLater => exact ⟨by simp; omega, by simp; omega⟩
  · split
    · next hMonth =>
        have hSome : 0 < daysInMonth d.year (d.month - 1) :=
          daysInMonth_pos_iff.mpr ⟨by omega, by omega⟩
        exact ⟨hSome, Nat.le_refl _⟩
    · exact ⟨by simp, by simp [daysInMonth]⟩

/-- No day is left out when the calendar is walked back and forth. -/
theorem next_previous {d : Day} (h : d.isReal = true) : d.previous.next = d := by
  obtain ⟨year, month, day, rfl, hFirst, hLast, hLow, hHigh⟩ := exists_of_isReal h
  unfold previous
  dsimp only
  split
  · next hLater =>
      have hRoom : day - 1 < daysInMonth year month := by omega
      simp only [next, hRoom, if_true, mk.injEq, true_and]
      omega
  · next hOne =>
      obtain rfl : day = 1 := by omega
      split
      · next hMonth =>
          have hInYear : month - 1 < 12 := by omega
          simp only [next, Nat.lt_irrefl, if_false, hInYear, if_true, mk.injEq, true_and, and_true]
          omega
      · next hJanuary =>
          obtain rfl : month = 1 := by omega
          simp [next, daysInMonth]

/-- Numbers count days: from each real day to the next one the number grows by one, across the ends
of months and years and the leap days. -/
theorem number_next {d : Day} (h : d.isReal = true) : d.next.number = d.number + 1 := by
  obtain ⟨year, month, day, rfl, hFirst, hLast, hLow, hHigh⟩ := exists_of_isReal h
  unfold next
  dsimp only
  split
  · simp only [number]
    omega
  -- The last day of a month. The leap day makes the step from February to March depend on the year.
  · next hEnd =>
      obtain rfl : day = daysInMonth year month := by omega
      have hLeap := @isLeapYear_iff year
      cases hYear : isLeapYear year <;> rw [hYear] at hLeap <;> interval_cases month <;>
        simp [number, daysInMonth, daysSinceMarch, monthsSinceMarch, hYear] at hLeap ⊢ <;> omega

/-- Every number is that of some day: from day zero on, forward and back one day at a time. -/
theorem exists_number (number : Int) : ∃ d : Day, d.isReal = true ∧ d.number = number := by
  induction number using Int.induction_on with
  | zero => exact ⟨⟨0, 3, 1⟩, rfl, rfl⟩
  | succ count ih =>
      obtain ⟨d, hReal, hNumber⟩ := ih
      exact ⟨d.next, isReal_next hReal, by rw [number_next hReal, hNumber]⟩
  | pred count ih =>
      obtain ⟨d, hReal, hNumber⟩ := ih
      have hPrevious := isReal_previous hReal
      have hStep := number_next hPrevious
      rw [next_previous hReal, hNumber] at hStep
      exact ⟨d.previous, hPrevious, by omega⟩

/-- The year of a day if years begin in March. -/
def marchYear (d : Day) : Int := if d.month ≤ 2 then d.year - 1 else d.year

/-- The days from the first of March on. -/
def sinceMarch (d : Day) : Nat := daysSinceMarch (monthsSinceMarch d.month) + (d.day - 1)

/-- A year that begins in March has 365 days, or one more if the February that ends it has. -/
theorem sinceMarch_le {d : Day} (h : d.isReal = true) :
    d.sinceMarch ≤ 364 ∨ d.sinceMarch = 365 ∧ isLeapYear (d.marchYear + 1) = true := by
  obtain ⟨year, month, day, rfl, hFirst, hLast, hLow, hHigh⟩ := exists_of_isReal h
  cases hYear : isLeapYear year <;> interval_cases month <;>
    simp [sinceMarch, marchYear, daysInMonth, daysSinceMarch, monthsSinceMarch, hYear]
      at hHigh ⊢ <;>
    omega

/-- Counted from March on, January and February come last. -/
theorem month_monthsSinceMarch {month : Nat} (h : 1 ≤ month ∧ month ≤ 12) :
    (if monthsSinceMarch month < 10 then monthsSinceMarch month + 3
      else monthsSinceMarch month - 9) = month := by
  unfold monthsSinceMarch
  split <;> omega

/-- Months of 31 and 30 days take turns from March to July, from August to December and then once
more, so a month can be told from the days before it. -/
theorem months_sinceMarch {d : Day} (h : d.isReal = true) :
    (5 * d.sinceMarch + 2) / 153 = monthsSinceMarch d.month := by
  obtain ⟨year, month, day, rfl, hFirst, hLast, hLow, hHigh⟩ := exists_of_isReal h
  cases hYear : isLeapYear year <;> interval_cases month <;>
    simp [sinceMarch, daysInMonth, daysSinceMarch, monthsSinceMarch, hYear] at hHigh ⊢ <;> omega

end Day

/-- The days of a cycle of 400 years that come before one of its years. -/
def daysBefore (yearOfCycle : Nat) : Nat := 365 * yearOfCycle + yearOfCycle / 4 - yearOfCycle / 100

/-- Division by the days of a century gives the century, but for the last day of the cycle, for
which it is one too high. -/
theorem centuryOfCycle_eq {century day : Nat} (hCentury : century < 4)
    (hDay : day < 36524 ∨ century = 3 ∧ day = 36524) :
    (36524 * century + day) / 36524 = century + (36524 * century + day) / 146096 := by
  rcases hDay with hDay | ⟨rfl, rfl⟩
  · omega
  · rfl

/-- Division by the days of four years without their leap day. A day beyond that many is counted to
the next four years. -/
theorem foursOfCycle_eq {fours day : Nat} (hDay : day < 2 * 1460) :
    (1460 * fours + day) / 1460 = if day < 1460 then fours else fours + 1 := by
  split <;> omega

/-- The year of a cycle from a day of it. The leap days before the day are taken away, counted by
fours of years, by centuries and at last for the whole cycle, and the rest has 365 days a year. -/
theorem yearOfCycle_eq {year day : Nat} (hYear : year < 400)
    (hDay : day ≤ 364 ∨ day = 365 ∧ isLeapYear (year + 1) = true) :
    let n := daysBefore year + day
    n < 146097 ∧ (n - n / 1460 + n / 36524 - n / 146096) / 365 = year := by
  intro n
  rw [isLeapYear_iff] at hDay
  obtain ⟨c, k, j, hc, hk, hj, rfl⟩ : ∃ c k j, c < 4 ∧ k < 25 ∧ j < 4 ∧
      year = 100 * c + 4 * k + j :=
    ⟨year / 100, year % 100 / 4, year % 4, by omega, by omega, by omega, by omega⟩
  have hFours : (100 * c + 4 * k + j) / 4 = 25 * c + k := by omega
  have hHundreds : (100 * c + 4 * k + j) / 100 = c := by omega
  have hDays : n = 36524 * c + (1461 * k + 365 * j + day) := by
    simp only [n, daysBefore, hFours, hHundreds]
    omega
  -- Only the last century of the cycle has its last February 29.
  have hWithin : 1461 * k + 365 * j + day < 36524 ∨
      c = 3 ∧ 1461 * k + 365 * j + day = 36524 := by omega
  have hCentury : n / 36524 = c + n / 146096 := hDays ▸ centuryOfCycle_eq hc hWithin
  have hFour : n / 1460 =
      if 24 * c + k + 365 * j + day < 1460 then 25 * c + k else 25 * c + k + 1 := by
    rw [← foursOfCycle_eq (by omega), hDays]
    congr 1
    omega
  clear_value n
  refine ⟨by omega, ?_⟩
  split at hFour <;> omega

namespace Day

/-- The number of a day by its place in the cycle of 400 years. All cycles are alike, so only days
within one have to be found again. -/
theorem number_eq (d : Day) (h : d.isReal = true) :
    d.number = cycleDays * (d.marchYear / 400) +
      (daysBefore (d.marchYear % 400).toNat + d.sinceMarch : Nat) := by
  have hDay := (isReal_iff.mp h).1
  unfold number sinceMarch daysBefore cycleDays
  change 365 * d.marchYear + d.marchYear / 4 - d.marchYear / 100 + d.marchYear / 400 + _ - 1 = _
  generalize d.marchYear = year
  generalize daysSinceMarch (monthsSinceMarch d.month) = before
  omega

/-- A real day is found again from its number. -/
theorem ofNumber_number {d : Day} (h : d.isReal = true) : ofNumber d.number = d := by
  have hMonth := month_of_isReal h
  have hDay := (isReal_iff.mp h).1
  have hYear : (d.marchYear % 400).toNat < 400 := by omega
  have hLast : d.sinceMarch ≤ 364 ∨
      d.sinceMarch = 365 ∧ isLeapYear ((d.marchYear % 400).toNat + 1) = true := by
    refine (sinceMarch_le h).imp_right (And.imp_right fun hLeap => ?_)
    rw [isLeapYear_iff] at hLeap ⊢
    omega
  obtain ⟨hLimit, hFound⟩ := yearOfCycle_eq hYear hLast
  have hNumber := number_eq d h
  have hCycle : d.number / cycleDays = d.marchYear / 400 := by
    unfold cycleDays at hNumber ⊢
    omega
  have hInCycle : (d.number % cycleDays).toNat =
      daysBefore (d.marchYear % 400).toNat + d.sinceMarch := by
    unfold cycleDays at hNumber ⊢
    omega
  have hInYear : daysBefore (d.marchYear % 400).toNat + d.sinceMarch -
      (365 * (d.marchYear % 400).toNat + (d.marchYear % 400).toNat / 4 -
        (d.marchYear % 400).toNat / 100) = d.sinceMarch :=
    Nat.add_sub_cancel_left ..
  unfold ofNumber
  dsimp only
  rw [hCycle, hInCycle, hFound, hInYear, months_sinceMarch h, month_monthsSinceMarch hMonth]
  refine Day.ext ?_ rfl ?_
  · dsimp only
    unfold marchYear
    split <;> omega
  · dsimp only
    unfold sinceMarch
    omega

/-- Every number is that of one day of the calendar, and of no other. -/
theorem isReal_ofNumber (number : Int) : (ofNumber number).isReal = true := by
  obtain ⟨d, hReal, rfl⟩ := exists_number number
  rwa [ofNumber_number hReal]

/-- Each number is that of the day found from it, since every number belongs to a real day. -/
theorem number_ofNumber (number : Int) : (ofNumber number).number = number := by
  obtain ⟨d, hReal, rfl⟩ := exists_number number
  rw [ofNumber_number hReal]

/-- Different real days have different numbers. -/
theorem eq_of_number_eq {d d' : Day} (h : d.isReal = true) (h' : d'.isReal = true)
    (hNumber : d.number = d'.number) : d = d' := by
  rw [← ofNumber_number h, hNumber, ofNumber_number h']

end Day

end Soaring.Calendar
