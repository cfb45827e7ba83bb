import Soaring.Numeric.Scalar

/-!
Directions in degrees, clockwise from north.
-/
namespace Soaring.Numeric

variable {α : Type} [Scalar α]

/-- Brings a direction into one turn by taking away whole turns. The cut is toward zero, so a
negative rest is lifted by one turn. -/
def normalizeBearing (degrees : α) : α :=
  let rest := Scalar.remTrunc degrees (Scalar.ofCount 360)
  if rest < Scalar.ofCount 0 then rest + Scalar.ofCount 360 else rest

end Soaring.Numeric
