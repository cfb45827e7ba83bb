import Soaring.Calendar.DateTime
import Soaring.Proofs.Calendar.Numbering
import Soaring.Proofs.Calendar.TimeOfDay

/-!
Local time as the instant of UTC moved by the offset. With a date of the calendar the instant is
moved as a whole, without one the time of day alone; as whole days do not count for the time of day,
both ways give the same one.
-/
namespace Soaring.Calendar

namespace Day

/-- The same day, or one of its two neighbours. -/
def IsNear (d d' : Day) : Prop := d = d' ∨ d = d'.next ∨ d.next = d'

theorem year_next (d : Day) : d.next.year = d.year ∨ d.next.year = d.year + 1 := by
  unfold next
  split
  · exact .inl rfl
  · split
    · exact .inl rfl
    · exact .inr rfl

/-- Neighbouring days lie in one year or in two that follow each other, so a date near a plausible
one still fits into the fields of a date. -/
theorem IsNear.year {d d' : Day} (h : d.IsNear d') :
    d'.year - 1 ≤ d.year ∧ d.year ≤ d'.year + 1 := by
  rcases h with rfl | rfl | rfl
  · omega
  · have := year_next d'
    omega
  · have := year_next d
    omega

/-- Numbers tell real days apart, so those that differ by at most one belong to neighbours. -/
theorem isNear_of_number {d d' : Day} (h : d.isReal = true) (h' : d'.isReal = true)
    (hLow : d'.number - 1 ≤ d.number) (hHigh : d.number ≤ d'.number + 1) : d.IsNear d' := by
  have hNext := number_next h
  have hNext' := number_next h'
  obtain hSame | hAfter | hBefore :
      d.number = d'.number ∨ d.number = d'.next.number ∨ d.next.number = d'.number := by omega
  · exact .inl (eq_of_number_eq h h' hSame)
  · exact .inr (.inl (eq_of_number_eq h (isReal_next h') hAfter))
  · exact .inr (.inr (eq_of_number_eq (isReal_next h) h' hBefore))

end Day

namespace Date

/-- A day of the calendar in the fields of a date: only the year may not fit. -/
theorem fields_ofDay {d : Day} (h : d.isReal = true) :
    ((ofDay d).year.toNat : Int) = d.year % 65536 ∧ (ofDay d).month.toNat = d.month ∧
    (ofDay d).day.toNat = d.day := by
  have hMonth := Day.month_of_isReal h
  have hDay : d.day ≤ 31 := Nat.le_trans (Day.isReal_iff.mp h).2 (daysInMonth_le ..)
  simp only [ofDay, UInt16.size, Nat.toUInt16_eq, Nat.toUInt8_eq, UInt16.toNat_ofNat',
    UInt8.toNat_ofNat']
  omega

/-- A real day passes through the fields of a date unchanged if its year fits into sixteen binary
digits. -/
theorem toDay_ofDay {d : Day} (h : d.isReal = true) (hLow : 0 ≤ d.year) (hHigh : d.year < 65536) :
    (ofDay d).toDay = d := by
  obtain ⟨hYear, hMonth, hDay⟩ := fields_ofDay h
  exact Day.ext (hYear.trans (Int.emod_eq_of_lt hLow hHigh)) hMonth hDay

/-- The rough check of a date that exists is one of its year. -/
theorem isPlausible_and_isReal_iff {d : Date} :
    (d.isPlausible && d.toDay.isReal) = true ↔
      d.toDay.isReal = true ∧ 1800 ≤ d.year ∧ d.year ≤ 2500 := by
  constructor
  · intro h
    simp only [isPlausible, Bool.and_eq_true, decide_eq_true_eq] at h
    tauto
  · rintro ⟨hReal, hYear⟩
    have hMonth : 1 ≤ d.month.toNat ∧ d.month.toNat ≤ 12 := Day.month_of_isReal hReal
    have hDay : 1 ≤ d.day.toNat ∧ d.day.toNat ≤ 31 :=
      (Day.isReal_iff.mp hReal).imp_right fun hLast => Nat.le_trans hLast (daysInMonth_le ..)
    simpa [isPlausible, hReal, hYear, UInt8.le_iff_toNat_le, and_assoc] using
      ⟨hMonth.1, hMonth.2, hDay⟩

end Date

namespace DateTime

/-- With a date of the calendar the whole instant is moved. -/
theorem toLocal_of_isReal {t : DateTime} (hTime : t.isTimePlausible = true)
    (hDate : t.date.toDay.isReal = true ∧ 1800 ≤ t.date.year ∧ t.date.year ≤ 2500) (minutes : Int) :
    t.toLocal minutes = ofInstant (t.instant + minutes * secondsPerMinute) := by
  unfold toLocal
  rw [hTime, Date.isPlausible_and_isReal_iff.mpr hDate]
  rfl

/-- Without one only the time of day is. -/
theorem toLocal_of_not_isReal {t : DateTime} (hTime : t.isTimePlausible = true)
    (hDate : ¬ (t.date.toDay.isReal = true ∧ 1800 ≤ t.date.year ∧ t.date.year ≤ 2500))
    (minutes : Int) : t.toLocal minutes = ⟨.unknown, t.time.shift minutes, true⟩ := by
  unfold toLocal
  rw [hTime, Bool.eq_false_iff.mpr (mt Date.isPlausible_and_isReal_iff.mp hDate)]
  rfl

/-- Moving an instant moves its time of day alike, since whole days drop out of both. -/
theorem time_ofInstant_add (t : DateTime) (minutes : Int) :
    (ofInstant (t.instant + minutes * secondsPerMinute)).time = t.time.shift minutes := by
  unfold ofInstant instant TimeOfDay.shift
  rw [Int.add_assoc, TimeOfDay.ofSecond_add_days]

/-- An offset of at most fourteen hours moves the date by one day at most. -/
theorem isNear_ofNumber_instant {t : DateTime} (hTime : t.time.isPlausible = true)
    (hReal : t.date.toDay.isReal = true) {minutes : Int} (hLow : -840 ≤ minutes)
    (hHigh : minutes ≤ 840) :
    (Day.ofNumber ((t.instant + minutes * secondsPerMinute) / secondsPerDay)).IsNear
      t.date.toDay := by
  obtain ⟨hStart, hEnd⟩ := TimeOfDay.toSecond_bounds hTime
  have hDay : (secondsPerDay : Int) = 86400 := rfl
  have hMinute : (secondsPerMinute : Int) = 60 := rfl
  unfold instant
  rw [hDay] at hEnd ⊢
  rw [hMinute]
  refine Day.isNear_of_number (Day.isReal_ofNumber _) hReal ?_ ?_ <;> rw [Day.number_ofNumber] <;>
    omega

/-- Local time is the instant of UTC moved by the offset. If there is a time of day, local time has
one too, and it is the shifted one whatever the date is worth. A date of the calendar becomes the
day that the moved instant falls on, the year as far as sixteen binary digits hold it; an offset of
at most fourteen hours does not leave them, and leads to the same day or to a neighbour. A date that
is not of the calendar, or far from the years of flying, becomes the marker for none. Without a time
of day there is no local time. -/
theorem toLocal_moves_instant (t : DateTime) (offset : Int32) :
    (t.valid = true ∧ t.time.isPlausible = true →
      (t.toLocal offset.toInt).valid = true ∧
      (t.toLocal offset.toInt).time.isPlausible = true ∧
      (t.toLocal offset.toInt).time = t.time.shift offset.toInt ∧
      (t.date.toDay.isReal = true ∧ 1800 ≤ t.date.year ∧ t.date.year ≤ 2500 →
        ∃ day : Day, day.isReal = true ∧
          day.number =
            (86400 * t.date.toDay.number + t.time.toSecond + 60 * offset.toInt) / 86400 ∧
          ((t.toLocal offset.toInt).date.year.toNat : Int) = day.year % 65536 ∧
          (t.toLocal offset.toInt).date.month.toNat = day.month ∧
          (t.toLocal offset.toInt).date.day.toNat = day.day ∧
          (-840 ≤ offset.toInt ∧ offset.toInt ≤ 840 →
            (t.toLocal offset.toInt).date.toDay = day ∧ day.IsNear t.date.toDay)) ∧
      (¬ (t.date.toDay.isReal = true ∧ 1800 ≤ t.date.year ∧ t.date.year ≤ 2500) →
        (t.toLocal offset.toInt).date = ⟨0, 0, 0⟩)) ∧
    (¬ (t.valid = true ∧ t.time.isPlausible = true) → t.toLocal offset.toInt = .invalid) := by
  rw [← Bool.and_eq_true, ← isTimePlausible.eq_def]
  generalize offset.toInt = minutes
  refine ⟨fun hTime => ?_, fun hTime => ?_⟩
  · by_cases hDate : t.date.toDay.isReal = true ∧ 1800 ≤ t.date.year ∧ t.date.year ≤ 2500
    · rw [toLocal_of_isReal hTime hDate]
      refine ⟨rfl, TimeOfDay.isPlausible_ofSecond _, time_ofInstant_add t minutes,
        fun _ => ?_, fun hNone => absurd hDate hNone⟩
      have hReal := Day.isReal_ofNumber ((t.instant + minutes * secondsPerMinute) / secondsPerDay)
      obtain ⟨hYear, hMonth, hDay⟩ := Date.fields_ofDay hReal
      refine ⟨_, hReal, ?_, hYear, hMonth, hDay, fun hOffset => ?_⟩
      · rw [Day.number_ofNumber, Int.mul_comm 60]
        rfl
      · have hNear := isNear_ofNumber_instant (Bool.and_eq_true _ _ ▸ hTime).2 hDate.1
          hOffset.1 hOffset.2
        have hYears := hNear.year
        have hLow : 1800 ≤ t.date.year.toNat := UInt16.le_iff_toNat_le.mp hDate.2.1
        have hHigh : t.date.year.toNat ≤ 2500 := UInt16.le_iff_toNat_le.mp hDate.2.2
        have hInput : t.date.toDay.year = t.date.year.toNat := rfl
        exact ⟨Date.toDay_ofDay hReal (by omega) (by omega), hNear⟩
    · rw [toLocal_of_not_isReal hTime hDate]
      exact ⟨rfl, TimeOfDay.isPlausible_ofSecond _, rfl, fun hSome => absurd hSome hDate,
        fun _ => rfl⟩
  · unfold toLocal
    rw [Bool.eq_false_iff.mpr hTime]
    rfl

/-- Three hours before two in the morning of the first of March it is the leap day. -/
theorem marchFirst_toLocal_leapDay :
    let t : DateTime := ⟨⟨2024, 3, 1⟩, ⟨2, 0, 0⟩, true⟩
    ((t.toLocal (-180 : Int32).toInt).time = t.time.shift (-180 : Int32).toInt ∧
      ∃ day : Day, day.isReal = true ∧
        day.number = t.date.toDay.number - 1 ∧
        (t.toLocal (-180 : Int32).toInt).date.toDay = day ∧ day.next = t.date.toDay) ∧
    t.toLocal (-180 : Int32).toInt = ⟨⟨2024, 2, 29⟩, ⟨23, 0, 0⟩, true⟩ := by
  intro t
  have hLocal : t.toLocal (-180 : Int32).toInt = ⟨⟨2024, 2, 29⟩, ⟨23, 0, 0⟩, true⟩ := by decide
  obtain ⟨-, -, hTime, hDate, -⟩ := (toLocal_moves_instant t (-180)).1 (by decide)
  obtain ⟨day, hReal, hNumber, -, -, -, hNear⟩ := hDate (by decide)
  obtain ⟨hDay, -⟩ := hNear (by decide)
  refine ⟨⟨hTime, day, hReal, hNumber.trans (by decide), hDay, ?_⟩, hLocal⟩
  rw [← hDay, hLocal]
  decide

end DateTime

end Soaring.Calendar
