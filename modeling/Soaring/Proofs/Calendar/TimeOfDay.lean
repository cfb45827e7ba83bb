import Mathlib.Data.Int.ModEq
import Soaring.Calendar.TimeOfDay

/-!
Times of day as second counts modulo one day. Any count has its hour, minute and second, which say
what is left of it without whole days, and a plausible time of day is that of its count. So shifts
by minutes add up, and those by whole days make no difference.
-/
namespace Soaring.Calendar.TimeOfDay

/-- The number is one of a signed word of 64 bits. -/
def FitsWord (n : Int) : Prop := Int64.minValue.toInt ≤ n ∧ n ≤ Int64.maxValue.toInt

/-- The numbers that come up on the way to the second count of a time that is shifted by minutes. -/
def shiftTerms (t : TimeOfDay) (minutes : Int) : List Int :=
  [t.hour.toNat * secondsPerHour, t.minute.toNat * secondsPerMinute,
    t.hour.toNat * secondsPerHour + t.minute.toNat * secondsPerMinute, t.toSecond,
    minutes * secondsPerMinute, t.toSecond + minutes * secondsPerMinute]

theorem isPlausible_iff {t : TimeOfDay} :
    t.isPlausible = true ↔ t.hour.toNat < 24 ∧ t.minute.toNat < 60 ∧ t.second.toNat < 60 := by
  simp [isPlausible, UInt8.lt_iff_toNat_lt, and_assoc]

theorem toSecond_eq (t : TimeOfDay) :
    t.toSecond = 3600 * t.hour.toNat + 60 * t.minute.toNat + t.second.toNat := by
  simp only [toSecond, secondsPerHour, secondsPerMinute, minutesPerHour]
  omega

/-- A plausible time of day is a second of the day. -/
theorem toSecond_bounds {t : TimeOfDay} (h : t.isPlausible = true) :
    0 ≤ t.toSecond ∧ t.toSecond < secondsPerDay := by
  have hFields := isPlausible_iff.mp h
  have hDay : (secondsPerDay : Int) = 86400 := rfl
  rw [toSecond_eq]
  omega

/-- The fields are the places of what is left without whole days; each is in its range, so that a
byte holds it whole. -/
theorem fields_ofSecond (seconds : Int) :
    ((ofSecond seconds).hour.toNat : Int) = seconds % 86400 / 3600 ∧
    ((ofSecond seconds).minute.toNat : Int) = seconds % 86400 / 60 % 60 ∧
    ((ofSecond seconds).second.toNat : Int) = seconds % 86400 % 60 := by
  have hDay : (secondsPerDay : Int) = 86400 := rfl
  simp only [ofSecond, hDay, secondsPerHour, secondsPerMinute, minutesPerHour, Nat.toUInt8_eq,
    UInt8.toNat_ofNat']
  omega

/-- Any number of seconds, also a negative one, falls on a plausible time of day. -/
theorem isPlausible_ofSecond (seconds : Int) : (ofSecond seconds).isPlausible = true := by
  obtain ⟨hHour, hMinute, hSecond⟩ := fields_ofSecond seconds
  rw [isPlausible_iff]
  omega

/-- On the way to a time of day and back whole days are lost and nothing else. -/
theorem toSecond_ofSecond (seconds : Int) : (ofSecond seconds).toSecond = seconds % 86400 := by
  obtain ⟨hHour, hMinute, hSecond⟩ := fields_ofSecond seconds
  rw [toSecond_eq, hHour, hMinute, hSecond]
  omega

/-- The time of day tells second counts apart up to whole days. -/
theorem ofSecond_eq_iff {seconds seconds' : Int} :
    ofSecond seconds = ofSecond seconds' ↔ seconds ≡ seconds' [ZMOD 86400] := by
  constructor
  · intro h
    have hCount := congrArg toSecond h
    rwa [toSecond_ofSecond, toSecond_ofSecond] at hCount
  · intro h
    have hRest : seconds % secondsPerDay = seconds' % secondsPerDay := h
    rw [ofSecond, hRest]
    rfl

/-- Whole days do not count. -/
theorem ofSecond_add_days (days seconds : Int) :
    ofSecond (secondsPerDay * days + seconds) = ofSecond seconds := by
  rw [ofSecond_eq_iff]
  exact Int.mul_add_emod_self_left ..

/-- Plausible times of day are told apart by their second counts. -/
theorem eq_of_toSecond_eq {t t' : TimeOfDay} (h : t.isPlausible = true) (h' : t'.isPlausible = true)
    (hCount : t.toSecond = t'.toSecond) : t = t' := by
  rw [isPlausible_iff] at h h'
  rw [toSecond_eq, toSecond_eq] at hCount
  have hHour : t.hour = t'.hour := UInt8.toNat_inj.mp (by omega)
  have hMinute : t.minute = t'.minute := UInt8.toNat_inj.mp (by omega)
  have hSecond : t.second = t'.second := UInt8.toNat_inj.mp (by omega)
  cases t
  cases t'
  congr

/-- A plausible time of day is found again from its second of the day. -/
theorem ofSecond_toSecond {t : TimeOfDay} (h : t.isPlausible = true) : ofSecond t.toSecond = t := by
  obtain ⟨hStart, hEnd⟩ := toSecond_bounds h
  apply eq_of_toSecond_eq (isPlausible_ofSecond _) h
  rw [toSecond_ofSecond]
  exact Int.emod_eq_of_lt hStart hEnd

/-- Two shifts, one after the other, are one by the sum. -/
theorem shift_shift (t : TimeOfDay) (first second : Int) :
    (t.shift first).shift second = t.shift (first + second) := by
  show ofSecond ((ofSecond (t.toSecond + first * 60)).toSecond + second * 60) =
    ofSecond (t.toSecond + (first + second) * 60)
  rw [ofSecond_eq_iff, toSecond_ofSecond, Int.add_mul, ← Int.add_assoc]
  exact Int.emod_add_emod ..

/-- Only times of day that are not plausible are changed by a shift by nothing. -/
theorem shift_zero {t : TimeOfDay} (h : t.isPlausible = true) : t.shift 0 = t := by
  show ofSecond (t.toSecond + 0 * 60) = t
  rw [Int.zero_mul, Int.add_zero]
  exact ofSecond_toSecond h

/-- Shifts are the same if and only if they differ by whole days. -/
theorem shift_eq_shift_iff (t : TimeOfDay) (first second : Int) :
    t.shift first = t.shift second ↔ first ≡ second [ZMOD 1440] := by
  show ofSecond (t.toSecond + first * 60) = ofSecond (t.toSecond + second * 60) ↔ _
  rw [ofSecond_eq_iff, Int.modEq_iff_dvd, Int.modEq_iff_dvd]
  omega

/-- A byte in each field and an offset of 32 bits leave all numbers on the way far inside a word. -/
theorem fitsWord_of_mem_shiftTerms {t : TimeOfDay} {offset : Int32} {n : Int}
    (h : n ∈ t.shiftTerms offset.toInt) : FitsWord n := by
  have hHour := t.hour.toNat_lt
  have hMinute := t.minute.toNat_lt
  have hSecond := t.second.toNat_lt
  have hLow := offset.le_toInt
  have hHigh := offset.toInt_lt
  simp only [shiftTerms, toSecond_eq, secondsPerHour, secondsPerMinute, minutesPerHour,
    List.mem_cons, List.not_mem_nil, or_false] at h
  rw [FitsWord, Int64.toInt_minValue, Int64.toInt_maxValue]
  omega

/-- Any second count has a plausible time of day, whose own count is what is left without whole
days and whose fields are the places of that, each whole in its byte; and a plausible time of day is
that of its count. Shifts of any time of day, with fields out of range too, add up. Two shifts are
the same if and only if they differ by whole days, and no shift leaves a plausible time as it is.
Offsets of 32 bits never take the second count out of its 64. -/
theorem shifts_act_modulo_day :
    (∀ seconds : Int,
      let t := ofSecond seconds
      t.isPlausible = true ∧ t.toSecond = seconds % 86400 ∧ 0 ≤ t.toSecond ∧ t.toSecond < 86400 ∧
      (t.hour.toNat : Int) = seconds % 86400 / 3600 ∧
      (t.minute.toNat : Int) = seconds % 86400 / 60 % 60 ∧
      (t.second.toNat : Int) = seconds % 86400 % 60) ∧
    (∀ t : TimeOfDay, t.isPlausible = true → ofSecond t.toSecond = t ∧ t.shift 0 = t) ∧
    (∀ (t : TimeOfDay) (a b : Int), (t.shift a).shift b = t.shift (a + b) ∧
      (t.shift a = t.shift b ↔ a % 1440 = b % 1440)) ∧
    ∀ (t : TimeOfDay) (offset : Int32), ∀ n ∈ t.shiftTerms offset.toInt, FitsWord n := by
  refine ⟨?_, ?_, ?_, ?_⟩
  · intro seconds t
    have hPlausible : t.isPlausible = true := isPlausible_ofSecond seconds
    obtain ⟨hStart, hEnd⟩ := toSecond_bounds hPlausible
    exact ⟨hPlausible, toSecond_ofSecond seconds, hStart, hEnd, fields_ofSecond seconds⟩
  · intro t hPlausible
    exact ⟨ofSecond_toSecond hPlausible, shift_zero hPlausible⟩
  · intro t a b
    exact ⟨shift_shift t a b, shift_eq_shift_iff t a b⟩
  · intro t offset n hMem
    exact fitsWord_of_mem_shiftTerms hMem

/-- A minute before midnight is reached from midnight by a minute back, and a time with all fields
out of range wraps like any other. -/
theorem aroundMidnight_shifts_act :
    let last : TimeOfDay := ⟨23, 59, 0⟩
    let broken : TimeOfDay := ⟨255, 255, 255⟩
    zero.isPlausible = true ∧ ofSecond zero.toSecond = zero ∧ zero.shift 0 = zero ∧
    zero.shift (-1) = last ∧ (zero.shift (-1)).shift 1 = zero ∧
    broken.shift 0 = ⟨19, 19, 15⟩ ∧ (broken.shift (-840)).shift 840 = ⟨19, 19, 15⟩ ∧
    FitsWord (broken.toSecond + (2147483647 : Int32).toInt * secondsPerMinute) := by
  intro last broken
  obtain ⟨-, hPlausible, hShifts, hFits⟩ := shifts_act_modulo_day
  obtain ⟨hCount, hZero⟩ := hPlausible zero rfl
  have hBack : (zero.shift (-1)).shift 1 = zero := ((hShifts zero (-1) 1).1).trans hZero
  have hBroken : broken.shift 0 = ⟨19, 19, 15⟩ := by decide
  have hRound : (broken.shift (-840)).shift 840 = ⟨19, 19, 15⟩ :=
    ((hShifts broken (-840) 840).1).trans hBroken
  refine ⟨rfl, hCount, hZero, by decide, hBack, hBroken, hRound, ?_⟩
  apply hFits broken 2147483647
  simp [shiftTerms]

end Soaring.Calendar.TimeOfDay
