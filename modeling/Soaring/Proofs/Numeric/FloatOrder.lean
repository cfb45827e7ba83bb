import Mathlib.Algebra.Order.Group.Int
import Mathlib.Data.Prod.Lex
import Mathlib.Order.Compare
import Soaring.Numeric.Binary64

/-!
The order of doubles. Every double that is a number has a place on one line, with the infinities at
the ends and both zeros in the middle, and two doubles compare as their places do. NaN has no place
and compares with nothing. So comparisons have the laws of a linear order as far as numbers go, and
the larger of two doubles is an upper bound of those that are numbers. Nothing here is about
rounding.
-/
namespace Soaring.Numeric

open Float.Model (UnpackedFloat)

/-- A place on the line of numbers. -/
abbrev Place : Type := Int ×ₗ Int ×ₗ Int

/-- A place by its kind, which counts first, its exponent and its mantissa. -/
def Place.of (kind exponent mantissa : Int) : Place := toLex (kind, toLex (exponent, mantissa))

/-- The place of a decoded double. Below zero, larger exponents and mantissas come earlier. -/
def unpackedPlace? : UnpackedFloat → Option Place
  | .notANumber => none
  | .infinity .negative => some (.of (-2) 0 0)
  | .finite .negative mantissa exponent _ => some (.of (-1) (-exponent) (-mantissa))
  | .zero _ => some (.of 0 0 0)
  | .finite .positive mantissa exponent _ => some (.of 1 exponent mantissa)
  | .infinity .positive => some (.of 2 0 0)

def place? (x : Float) : Option Place := unpackedPlace? x.toModel.unpack

/-- Places are compared by kind, then by exponent, then by mantissa. -/
theorem compare_placeOf (kind exponent mantissa kind' exponent' mantissa' : Int) :
    compare (Place.of kind exponent mantissa) (Place.of kind' exponent' mantissa') =
      (compare kind kind').then ((compare exponent exponent').then
        (compare mantissa mantissa')) := by
  simp [Place.of, Prod.Lex.compare_def, compareLex, compareOn]

theorem compare_natCast (m n : Nat) : compare (m : Int) (n : Int) = compare m n := by
  rw [compare_iff]
  cases h : compare m n with
  | lt => exact Int.ofNat_lt.mpr (compare_lt_iff_lt.mp h)
  | eq => exact congrArg _ (compare_eq_iff_eq.mp h)
  | gt => exact Int.ofNat_lt.mpr (compare_gt_iff_gt.mp h)

theorem compare_neg (a b : Int) : compare (-a) (-b) = (compare a b).swap := by
  rw [Int.compare_swap, compare_iff]
  cases h : compare b a with
  | lt => exact Int.neg_lt_neg (compare_lt_iff_lt.mp h)
  | eq => exact congrArg _ (compare_eq_iff_eq.mp h).symm
  | gt => exact Int.neg_lt_neg (compare_gt_iff_gt.mp h)

/-- Decoded doubles compare as their places do, and not at all without a place. -/
theorem compare_unpacked (a b : UnpackedFloat) :
    a.compare b = (unpackedPlace? a).bind fun p => (unpackedPlace? b).map (compare p) := by
  -- Different kinds decide by themselves; equal ones leave it to exponent and mantissa.
  rcases a with (_ | _) | _ | _ | ⟨_ | _, m, e, _⟩ <;>
    rcases b with (_ | _) | _ | _ | ⟨_ | _, n, f, _⟩ <;>
    dsimp only [unpackedPlace?, UnpackedFloat.compare, Option.bind_some, Option.map_some,
      Option.bind_none, Option.map_none] <;>
    simp only [compare_placeOf, compare_neg, compare_natCast, Ordering.swap_then] <;> rfl

section

variable {x y z : Float}

/-- Doubles are ordered as their places are. A NaN has no place, and so it is in no order. -/
theorem float_lt_iff : x < y ↔ ∃ p q, place? x = some p ∧ place? y = some q ∧ p < q := by
  have hUnpacked : x < y ↔ x.toModel.unpack.lt y.toModel.unpack = true := decide_eq_true_iff
  rw [hUnpacked, UnpackedFloat.lt, compare_unpacked, ← place?, ← place?]
  cases place? x <;> cases place? y <;> simp [compare_lt_iff_lt]

/-- The same for the order that admits equality. -/
theorem float_le_iff : x ≤ y ↔ ∃ p q, place? x = some p ∧ place? y = some q ∧ p ≤ q := by
  have hUnpacked : x ≤ y ↔ x.toModel.unpack.le y.toModel.unpack = true := decide_eq_true_iff
  rw [hUnpacked, UnpackedFloat.le, compare_unpacked, ← place?, ← place?]
  cases place? x <;> cases place? y <;> simp [Ordering.isLE_iff_ne_gt, compare_le_iff_le]

/-- What has a place is a number. -/
theorem isNaN_eq_false_iff : x.isNaN = false ↔ ∃ p, place? x = some p := by
  change x.toModel.unpack.isNaN = false ↔ _
  unfold place?
  cases x.toModel.unpack with
  | notANumber => exact ⟨fun h => (Bool.false_ne_true h.symm).elim, fun ⟨_, h⟩ => nomatch h⟩
  | infinity sign => cases sign <;> exact ⟨fun _ => ⟨_, rfl⟩, fun _ => rfl⟩
  | zero sign => exact ⟨fun _ => ⟨_, rfl⟩, fun _ => rfl⟩
  | finite sign => cases sign <;> exact ⟨fun _ => ⟨_, rfl⟩, fun _ => rfl⟩

theorem isNaN_of_isFinite (h : x.isFinite = true) : x.isNaN = false := by
  change x.toModel.unpack.isFinite = true at h
  change x.toModel.unpack.isNaN = false
  cases hUnpacked : x.toModel.unpack with
  | notANumber =>
      rw [hUnpacked] at h
      cases h
  | infinity | zero | finite => rfl

theorem float_le_refl (h : x.isNaN = false) : x ≤ x := by
  obtain ⟨p, hPlace⟩ := isNaN_eq_false_iff.mp h
  exact float_le_iff.mpr ⟨p, p, hPlace, hPlace, le_rfl⟩

theorem float_le_trans (hxy : x ≤ y) (hyz : y ≤ z) : x ≤ z := by
  obtain ⟨p, q, hx, hy, hpq⟩ := float_le_iff.mp hxy
  obtain ⟨q', r, hy', hz, hqr⟩ := float_le_iff.mp hyz
  obtain rfl : q = q' := Option.some.inj (hy.symm.trans hy')
  exact float_le_iff.mpr ⟨p, r, hx, hz, hpq.trans hqr⟩

theorem float_le_of_lt (h : x < y) : x ≤ y := by
  obtain ⟨p, q, hx, hy, hpq⟩ := float_lt_iff.mp h
  exact float_le_iff.mpr ⟨p, q, hx, hy, hpq.le⟩

/-- Among numbers the order is total. -/
theorem float_le_of_not_lt (hx : x.isNaN = false) (hy : y.isNaN = false) (h : ¬ x < y) :
    y ≤ x := by
  obtain ⟨p, hp⟩ := isNaN_eq_false_iff.mp hx
  obtain ⟨q, hq⟩ := isNaN_eq_false_iff.mp hy
  refine float_le_iff.mpr ⟨q, p, hq, hp, ?_⟩
  by_contra hLess
  exact h (float_lt_iff.mpr ⟨p, q, hp, hq, lt_of_not_ge hLess⟩)

/-- The larger of a number and anything else is one of the two, and not smaller than the number. -/
theorem larger_cases (h : x.isNaN = false) (y : Float) :
    (larger x y = x ∧ (y.isNaN = true ∨ y ≤ x)) ∨
    (larger x y = y ∧ y.isNaN = false ∧ x ≤ y) := by
  unfold larger
  rw [h, if_neg Bool.false_ne_true]
  cases hy : y.isNaN with
  | true => exact .inl ⟨if_pos rfl, .inl rfl⟩
  | false =>
      rw [if_neg Bool.false_ne_true]
      by_cases hLess : x < y
      · exact .inr ⟨if_pos hLess, rfl, float_le_of_lt hLess⟩
      · exact .inl ⟨if_neg hLess, .inr (float_le_of_not_lt h hy hLess)⟩

/-- One number among the two is enough. -/
theorem isNaN_larger (h : x.isNaN = false) (y : Float) : (larger x y).isNaN = false := by
  rcases larger_cases h y with ⟨hLeft, -⟩ | ⟨hRight, hNumber, -⟩
  · rwa [hLeft]
  · rwa [hRight]

theorem isFinite_larger (hx : x.isFinite = true) (hy : y.isFinite = true) :
    (larger x y).isFinite = true := by
  rcases larger_cases (isNaN_of_isFinite hx) y with ⟨hLeft, -⟩ | ⟨hRight, -, -⟩
  · rwa [hLeft]
  · rwa [hRight]

/-- The larger of two numbers is not below the first one, even if the second is none. -/
theorem le_larger_left (h : x.isNaN = false) (y : Float) : x ≤ larger x y := by
  rcases larger_cases h y with ⟨hLeft, -⟩ | ⟨hRight, -, hLe⟩
  · rw [hLeft]
    exact float_le_refl h
  · rwa [hRight]

theorem le_larger_right (hx : x.isNaN = false) (hy : y.isNaN = false) : y ≤ larger x y := by
  rcases larger_cases hx y with ⟨hLeft, hNone | hLe⟩ | ⟨hRight, -, -⟩
  · cases hNone.symm.trans hy
  · rwa [hLeft]
  · rw [hRight]
    exact float_le_refl hy

end

end Soaring.Numeric
