import Mathlib.Data.Rat.Floor
import Mathlib.Tactic.Linarith
import Mathlib.Tactic.Ring
import Soaring.Numeric.Direction

/-!
The arithmetic of directions on rational numbers, where it is exact. Bringing a direction into one
turn takes away whole turns and nothing else, although the division behind it is cut toward zero;
rounding moves a number by at most a half.
-/
namespace Soaring.Numeric

theorem floor_bounds (q : Rat) : (q.floor : Rat) ≤ q ∧ q < q.floor + 1 :=
  ⟨Int.floor_le q, Int.lt_floor_add_one q⟩

/-- A number that is cut toward zero moves by less than one. -/
theorem truncate_bounds (q : Rat) : (truncate q : Rat) - 1 < q ∧ q < truncate q + 1 := by
  unfold truncate
  by_cases hSide : 0 ≤ q
  · obtain ⟨hLow, hHigh⟩ := floor_bounds q
    rw [if_pos hSide]
    exact ⟨by linarith, hHigh⟩
  · obtain ⟨hLow, hHigh⟩ := floor_bounds (-q)
    rw [if_neg hSide, Rat.ceil_eq_neg_floor_neg]
    push_cast
    constructor <;> linarith

/-- A direction in one turn differs from the given one by whole turns. -/
theorem normalizeBearing_spec (b : Rat) :
    ∃ turns : Int, normalizeBearing b = b - 360 * turns ∧
      0 ≤ normalizeBearing b ∧ normalizeBearing b < 360 := by
  obtain ⟨hLow, hHigh⟩ := truncate_bounds (b / 360)
  have hNormal : normalizeBearing b =
      if b - 360 * (truncate (b / 360) : Rat) < 0 then b - 360 * (truncate (b / 360) : Rat) + 360
      else b - 360 * (truncate (b / 360) : Rat) := rfl
  rw [hNormal]
  split
  · next hBelow =>
      refine ⟨truncate (b / 360) - 1, ?_, ?_, ?_⟩
      · push_cast
        ring
      · linarith
      · linarith
  · next hAbove => exact ⟨truncate (b / 360), rfl, not_lt.mp hAbove, by linarith⟩

/-- A direction in one turn stays as it is. -/
theorem normalizeBearing_of_bounds {b : Rat} (hLow : 0 ≤ b) (hHigh : b < 360) :
    normalizeBearing b = b := by
  obtain ⟨turns, hTurns, hLow', hHigh'⟩ := normalizeBearing_spec b
  have hBelow : (turns : Rat) < 1 := by linarith
  have hAbove : (-1 : Rat) < turns := by linarith
  have hNone : turns = 0 := by
    have hBelow' : turns < 1 := by exact_mod_cast hBelow
    have hAbove' : -1 < turns := by exact_mod_cast hAbove
    omega
  rw [hTurns, hNone]
  simp

/-- A number that is not negative is rounded to a count that is at most a half away, and a half goes
up. -/
theorem roundHalfAway_spec {x : Rat} (h : 0 ≤ x) :
    ∃ n : Nat, Scalar.roundHalfAway x = (n : Rat) ∧ x - 1 / 2 < n ∧ (n : Rat) ≤ x + 1 / 2 := by
  obtain ⟨hLow, hHigh⟩ := floor_bounds (x + 1 / 2)
  have hCount : 0 ≤ (x + 1 / 2).floor := by
    change 0 ≤ ⌊x + 1 / 2⌋
    exact Int.floor_nonneg.mpr (by linarith)
  obtain ⟨n, hn⟩ := Int.eq_ofNat_of_zero_le hCount
  have hRound : Scalar.roundHalfAway x = ((x + 1 / 2).floor : Rat) := if_pos h
  rw [hn] at hRound hLow hHigh
  push_cast at hRound hLow hHigh
  exact ⟨n, hRound, by linarith, hLow⟩

/-- The count nearest to a count is itself. -/
theorem eq_of_nearest {m n : Nat} (hBelow : (m : Rat) - 1 / 2 < n)
    (hAbove : (n : Rat) ≤ m + 1 / 2) : n = m := by
  have hLow : (m : Rat) < n + 1 := by linarith
  have hHigh : (n : Rat) < m + 1 := by linarith
  have hLow' : m < n + 1 := by exact_mod_cast hLow
  have hHigh' : n < m + 1 := by exact_mod_cast hHigh
  omega

/-- On exact numbers the operations of the formulas are the usual ones. -/
theorem larger_eq_max (x y : Rat) : Scalar.larger x y = max x y := by
  rw [max_def_lt]
  rfl

theorem smaller_natCast (n m : Nat) : Scalar.smaller (n : Rat) (m : Rat) = (min n m : Nat) := by
  rw [Nat.cast_min, min_comm, min_def_lt]
  rfl

/-- A count that fits the word is its own whole part. -/
theorem wholePart_natCast {n : Nat} (h : n ≤ countLimit) : Scalar.wholePart (n : Rat) = n := by
  have hWhole : Scalar.wholePart (n : Rat) = min (n : Rat).floor.toNat countLimit := rfl
  have hFloor : (n : Rat).floor = n := by
    change ⌊(n : Rat)⌋ = n
    exact Int.floor_natCast n
  rw [hWhole, hFloor, Int.toNat_natCast, Nat.min_eq_left h]

end Soaring.Numeric
