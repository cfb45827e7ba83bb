import Soaring.Numeric.Binary64

/-!
Reduction of an angle in radians to the quarter turn around a multiple of half of pi. The
subtraction runs on whole numbers with enough digits of pi for every double, so the remainder is
exact for small angles and for astronomically large ones alike.
-/
namespace Soaring.Numeric

/-- The first `terms` terms, from the given one on, of the series of the arc tangent of `1 / base`,
in units of `1 / scale`. `power` is `scale / base ^ (2 * index + 1)`. -/
def arctanSeries (base : Nat) : (terms index : Nat) → (power : Int) → Int
  | 0, _, _ => 0
  | terms + 1, index, power =>
    let term := power / (2 * index + 1 : Nat)
    (if index % 2 = 0 then term else -term) +
      arctanSeries base terms (index + 1) (power / (base * base : Nat))

/-- The arc tangent of `1 / base` in units of `2 ^ -bits`. -/
def arctanInverse (base bits : Nat) : Int :=
  arctanSeries base (bits / 4 + 1) 0 ((1 <<< bits : Nat) / (base : Nat))

/-- Half of pi in units of `2 ^ -bits`, by the sum of two arc tangents that Machin found. -/
def halfPi (bits : Nat) : Int :=
  2 * (4 * arctanInverse 5 bits - arctanInverse 239 bits)

/-- The number of binary places that angles are reduced with. A double has up to 1024 places before
the point; what remains leaves more than two doubles' precision after the subtraction. -/
def anglePlaces : Nat := 1400

/-- Half of pi with `anglePlaces` binary places. -/
def halfPiUnits : Int := halfPi anglePlaces

/-- An angle as a number of quarter turns and a remainder, held as a sum of two doubles of which
the second is the part that the first one rounded away. -/
structure Reduced where
  quarters : Nat
  head : Float
  tail : Float

/-- A whole number of angle units as the nearest double. -/
def angleOfUnits (units : Int) : Float :=
  nearest (units < 0) units.natAbs (-(anglePlaces : Int))

/-- A finite angle in angle units. Nothing is cut off, as doubles have fewer places. -/
def unitsOfAngle (x : Float) : Int :=
  let d := Dyad.ofFloat x
  let size := (d.mantissa <<< (d.exponent + anglePlaces).toNat : Nat)
  if d.negative then -(size : Int) else size

/-- The bit patterns of the largest angles that are still counted to zero, one, two, three and four
quarter turns. They lie just above the odd multiples of a quarter of pi. -/
def quarterLimits : List UInt64 :=
  [0x3FE921FBFFFFFFFF, 0x4002D97CFFFFFFFF, 0x400F6A7AFFFFFFFF, 0x4015FDBCFFFFFFFF,
    0x401C463BFFFFFFFF]

/-- The number of quarter turns subtracted from an angle that is not negative. -/
def quartersOf (x : Float) : Nat :=
  match quarterLimits.findIdx? (fun limit => x.toBits ≤ limit) with
  | some quarters => quarters
  | none => ((2 * unitsOfAngle x + halfPiUnits) / (2 * halfPiUnits)).toNat

/-- Reduces a finite angle that is not negative. -/
def reduce (x : Float) : Reduced :=
  match quartersOf x with
  | 0 => { quarters := 0, head := x, tail := 0 }
  | quarters =>
    let rest := unitsOfAngle x - quarters * halfPiUnits
    let head := angleOfUnits rest
    { quarters := quarters, head := head, tail := angleOfUnits (rest - unitsOfAngle head) }

end Soaring.Numeric
