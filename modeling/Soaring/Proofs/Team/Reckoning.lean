import Soaring.Proofs.Numeric.Rounding
import Soaring.Proofs.Team.Code

/-!
What a code keeps of a position when its formulas are read on rational numbers. Decoding answers
within half a step of the bearing, on the circle, and within half a unit of the distance where it is
within reach; and a code that is decoded is encoded again as it was.
-/
namespace Soaring.Team.Code

open Soaring.Numeric

theorem stepOf_eq (b : Rat) :
    stepOf b =
      Scalar.wholePart (Scalar.roundHalfAway (normalizeBearing b * 1296 / 360)) % 1296 := rfl

/-- A bearing that is decoded lies in one turn already. -/
theorem degrees_eq (c : Code) : (c.degrees : Rat) = c.bearing.value * 360 / 1296 := by
  have hStep : (c.bearing.value : Rat) < 1296 := by exact_mod_cast c.bearing.value_lt
  have hStart : (0 : Rat) ≤ c.bearing.value := Nat.cast_nonneg _
  apply normalizeBearing_of_bounds (b := c.bearing.value * 360 / 1296)
  · linarith
  · linarith

/-- The bearing of a code is a direction within one turn. -/
theorem degrees_bounds (c : Code) : (0 : Rat) ≤ c.degrees ∧ (c.degrees : Rat) < 360 := by
  obtain ⟨-, -, hStart, hEnd⟩ := normalizeBearing_spec ((c.bearing.value : Rat) * 360 / 1296)
  exact ⟨hStart, hEnd⟩

theorem metres_eq (c : Code) : (c.metres : Rat) = c.range.value * 100 := rfl

/-- The step of a bearing is the nearest whole number of steps, less a whole turn if it is a full
one. -/
theorem stepOf_spec (b : Rat) :
    ∃ nearest full : Nat, nearest = 1296 * full + stepOf b ∧
      normalizeBearing b * 1296 / 360 - 1 / 2 < nearest ∧
      (nearest : Rat) ≤ normalizeBearing b * 1296 / 360 + 1 / 2 := by
  obtain ⟨-, -, hLow, hHigh⟩ := normalizeBearing_spec b
  obtain ⟨n, hRound, hBelow, hAbove⟩ :=
    roundHalfAway_spec (x := normalizeBearing b * 1296 / 360) (by linarith)
  have hTurn : n < 1297 := by
    have hSteps : (n : Rat) < 1297 := by linarith
    exact_mod_cast hSteps
  have hWord : n ≤ countLimit := by
    have hLimit : 1297 ≤ countLimit := by decide
    omega
  refine ⟨n, n / 1296, ?_, hBelow, hAbove⟩
  rw [stepOf_eq, hRound, wholePart_natCast hWord, Nat.div_add_mod]

/-- The range value of a distance is the nearest whole number of units, cut at the largest one. -/
theorem rangeOf_spec (d : Rat) :
    ∃ nearest : Nat, rangeOf d = min nearest 46655 ∧
      max d 0 / 100 - 1 / 2 < nearest ∧ (nearest : Rat) ≤ max d 0 / 100 + 1 / 2 := by
  have hStart : 0 ≤ max d 0 := le_max_right d 0
  obtain ⟨n, hRound, hBelow, hAbove⟩ := roundHalfAway_spec (x := max d 0 / 100) (by linarith)
  have hRange : rangeOf d = Scalar.wholePart (Scalar.smaller
      (Scalar.roundHalfAway (Scalar.larger d 0 / 100)) ((46655 : Nat) : Rat)) := rfl
  have hWord : min n 46655 ≤ countLimit := (Nat.min_le_right ..).trans (by decide)
  refine ⟨n, ?_, hBelow, hAbove⟩
  rw [hRange, larger_eq_max, hRound, smaller_natCast, wholePart_natCast hWord]

/-- The range value has as many digits as there are for it, so none is cut. -/
theorem value_range_encode (b d : Rat) : (encode b d).range.value = rangeOf d := by
  obtain ⟨n, hRange, -, -⟩ := rangeOf_spec d
  have hDigits : rangeOf d < base.pow rangeDigits := by
    rw [hRange]
    exact (Nat.min_le_right n 46655).trans_lt (by decide)
  rw [encode, Numeral.value_ofNat, Nat.mod_eq_of_lt hDigits]

/-- The bearing that is decoded is at most half a step away, once around the circle or more. -/
theorem degrees_encode (b d : Rat) :
    ∃ turns : Int, |((encode b d).degrees : Rat) - b - 360 * turns| ≤ 5 / 36 := by
  obtain ⟨turns, hTurns, -, -⟩ := normalizeBearing_spec b
  obtain ⟨n, full, hStep, hBelow, hAbove⟩ := stepOf_spec b
  have hCast : (n : Rat) = 1296 * full + stepOf b := by exact_mod_cast hStep
  use -(turns + full)
  rw [degrees_eq, value_bearing_encode, abs_le]
  push_cast
  constructor <;> linarith

theorem metres_encode (b d : Rat) : ((encode b d).metres : Rat) = rangeOf d * 100 := by
  rw [metres_eq, value_range_encode]

/-- A negative distance is taken for none. -/
theorem metres_encode_of_neg (b : Rat) {d : Rat} (h : d < 0) :
    ((encode b d).metres : Rat) = 0 := by
  obtain ⟨n, hRange, -, hAbove⟩ := rangeOf_spec d
  rw [max_eq_right h.le] at hAbove
  have hNone : n < 1 := by
    have hSmall : (n : Rat) < 1 := by linarith
    exact_mod_cast hSmall
  rw [metres_encode, hRange, Nat.lt_one_iff.mp hNone, Nat.zero_min, Nat.cast_zero, zero_mul]

/-- Within the reach of the digits half a unit is lost at most. -/
theorem metres_encode_of_lt (b : Rat) {d : Rat} (hStart : 0 ≤ d) (hEnd : d < 4665550) :
    |((encode b d).metres : Rat) - d| ≤ 50 := by
  obtain ⟨n, hRange, hBelow, hAbove⟩ := rangeOf_spec d
  rw [max_eq_left hStart] at hBelow hAbove
  have hReach : n < 46656 := by
    have hSmall : (n : Rat) < 46656 := by linarith
    exact_mod_cast hSmall
  rw [metres_encode, hRange, Nat.min_eq_left (Nat.le_of_lt_succ hReach), abs_le]
  constructor <;> linarith

/-- Beyond the reach of the digits the largest distance stands for all. -/
theorem metres_encode_of_ge (b : Rat) {d : Rat} (h : 4665550 ≤ d) :
    ((encode b d).metres : Rat) = 4665500 := by
  obtain ⟨n, hRange, hBelow, -⟩ := rangeOf_spec d
  rw [max_eq_left (by linarith)] at hBelow
  have hReach : 46655 < n := by
    have hLarge : (46655 : Rat) < n := by linarith
    exact_mod_cast hLarge
  rw [metres_encode, hRange, Nat.min_eq_right hReach.le]
  norm_num

/-- The step of the bearing that a code names is the one that it has. -/
theorem stepOf_degrees (c : Code) : stepOf (c.degrees : Rat) = c.bearing.value := by
  obtain ⟨n, full, hStep, hBelow, hAbove⟩ := stepOf_spec (c.degrees : Rat)
  have hUnits : normalizeBearing (c.degrees : Rat) * 1296 / 360 = c.bearing.value := by
    rw [normalizeBearing_of_bounds c.degrees_bounds.1 c.degrees_bounds.2, degrees_eq]
    ring
  rw [hUnits] at hBelow hAbove
  have hNearest : n = c.bearing.value := eq_of_nearest hBelow hAbove
  have hSteps : c.bearing.value < 1296 := c.bearing.value_lt
  omega

/-- The range value of the distance that a code names is the one that it has. -/
theorem rangeOf_metres (c : Code) : rangeOf (c.metres : Rat) = c.range.value := by
  obtain ⟨n, hRange, hBelow, hAbove⟩ := rangeOf_spec (c.metres : Rat)
  have hStart : (0 : Rat) ≤ c.metres := by
    rw [metres_eq]
    exact mul_nonneg (Nat.cast_nonneg _) (by norm_num)
  have hUnits : max (c.metres : Rat) 0 / 100 = c.range.value := by
    rw [max_eq_left hStart, metres_eq]
    ring
  rw [hUnits] at hBelow hAbove
  have hNearest : n = c.range.value := eq_of_nearest hBelow hAbove
  have hReach : c.range.value < 46656 := c.range.value_lt
  omega

/-- A code that is decoded is encoded again as it was. -/
theorem encode_decoded (c : Code) : encode (c.degrees : Rat) c.metres = c := by
  rw [encode, stepOf_degrees, rangeOf_metres, Numeral.ofNat_value, Numeral.ofNat_value]

/-- Encoding on rational numbers loses at most half a step. A code names a bearing in one turn that
is at most 5/36 of a degree from the given one, give or take whole turns; and a distance that is at
most 50 metres from the given one where the digits reach, none for a negative one and the largest
one beyond reach. A code that is decoded is encoded again as it was. -/
theorem decoded_within_half_step :
    (∀ b d : Rat,
      let code := encode b d
      0 ≤ (code.degrees : Rat) ∧ (code.degrees : Rat) < 360 ∧
      (∃ turns : Int, |(code.degrees : Rat) - b - 360 * turns| ≤ 5 / 36) ∧
      (0 ≤ d → d < 4665550 → |(code.metres : Rat) - d| ≤ 50) ∧
      (d < 0 → (code.metres : Rat) = 0) ∧
      (4665550 ≤ d → (code.metres : Rat) = 4665500)) ∧
    ∀ code : Code, encode (code.degrees : Rat) code.metres = code := by
  refine ⟨?_, encode_decoded⟩
  intro b d code
  obtain ⟨hStart, hEnd⟩ := code.degrees_bounds
  exact ⟨hStart, hEnd, degrees_encode b d, metres_encode_of_lt b, metres_encode_of_neg b,
    metres_encode_of_ge b⟩

/-- Two turns less a tenth of a degree are north again, and 12345 metres are 123 units, which the
digits of the code spell. -/
theorem northAgain_within_half_step :
    let code := encode (7199 / 10 : Rat) 12345
    code.text = ['0', '0', '0', '3', 'F'] ∧
    (∃ turns : Int, |(code.degrees : Rat) - 7199 / 10 - 360 * turns| ≤ 5 / 36) ∧
    |(code.metres : Rat) - 12345| ≤ 50 ∧
    ((encode (-1 / 8 : Rat) (-1)).metres : Rat) = 0 ∧
    ((encode (-1 / 8 : Rat) 4665550).metres : Rat) = 4665500 ∧
    encode (code.degrees : Rat) code.metres = code := by
  intro code
  obtain ⟨hEncoded, hDecoded⟩ := decoded_within_half_step
  obtain ⟨-, -, hTurns, hNear, -, -⟩ := hEncoded (7199 / 10) 12345
  obtain ⟨-, -, -, -, hNegative, -⟩ := hEncoded (-1 / 8) (-1)
  obtain ⟨-, -, -, -, -, hBeyond⟩ := hEncoded (-1 / 8) 4665550
  exact ⟨by decide +kernel, hTurns, hNear (by norm_num) (by norm_num), hNegative (by norm_num),
    hBeyond (by norm_num), hDecoded code⟩

end Soaring.Team.Code
