import Soaring.Numeric.Binary64

/-!
The arithmetic that directions and team codes are computed in. It is stated once for any number
system with these operations, and provided for doubles, which the engine runs on, and for rational
numbers, in which the same formulas have no rounding of their own.
-/
namespace Soaring.Numeric

/-- Numbers with the operations of the direction and team code formulas. -/
class Scalar (α : Type) extends Add α, Sub α, Mul α, Div α, LT α where
  /-- Comparison can be decided. -/
  decideLT : DecidableRel (fun a b : α => a < b)
  /-- A count as a number. -/
  ofCount : Nat → α
  /-- The remainder of a division whose quotient is cut toward zero. -/
  remTrunc : α → α → α
  /-- The nearest whole number; a half goes away from zero. -/
  roundHalfAway : α → α
  /-- The larger of two numbers. -/
  larger : α → α → α
  /-- The smaller of two numbers. -/
  smaller : α → α → α
  /-- The whole part as a count between zero and `countLimit`. -/
  wholePart : α → Nat

instance Scalar.decidableLT {α : Type} [Scalar α] : DecidableRel (fun a b : α => a < b) :=
  Scalar.decideLT

instance : Scalar Float where
  decideLT := fun _ _ => inferInstance
  ofCount := Float.ofNat
  remTrunc := Numeric.remTrunc
  roundHalfAway := Numeric.roundHalfAway
  larger := Numeric.larger
  smaller := Numeric.smaller
  wholePart := Numeric.wholePart

/-- A rational number cut toward zero. -/
def truncate (q : Rat) : Int := if 0 ≤ q then q.floor else q.ceil

instance : Scalar Rat where
  decideLT := fun _ _ => inferInstance
  ofCount := fun n => (n : Rat)
  remTrunc := fun x y => x - y * (truncate (x / y) : Rat)
  roundHalfAway := fun x => if 0 ≤ x then ((x + 1 / 2).floor : Rat) else ((x - 1 / 2).ceil : Rat)
  larger := fun x y => if x < y then y else x
  smaller := fun x y => if y < x then y else x
  wholePart := fun x => min x.floor.toNat countLimit

end Soaring.Numeric
