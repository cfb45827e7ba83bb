import Soaring.Numeric.Binary64

/-!
Decimal numbers read as doubles: the result is the double nearest to the written number, ties to
even, however many digits there are.
-/
namespace Soaring.Numeric

/-- The double nearest to the quotient of two whole numbers, the second not zero. The quotient is
cut after more binary digits than a double holds, and a last digit tells whether anything was
cut. -/
def nearestQuotient (negative : Bool) (num den : Nat) : Float :=
  let shift := den.log2 + 66 - num.log2
  let scaled := num <<< shift
  let sticky := if scaled % den = 0 then 0 else 1
  nearest negative (2 * (scaled / den) + sticky) (-(shift : Int) - 1)

/-- A power of ten beyond the range of doubles on either side. -/
def decimalReach : Int := 400

/-- An estimate of the number of decimal digits, at most one off. -/
def digitCount (n : Nat) : Nat := n.log2 * 30103 / 100000 + 1

/-- The double nearest to `digits * 10 ^ exponent`, if it is finite. Numbers far out of range are
told by their size, without computing the power. -/
def ofDecimal? (negative : Bool) (digits : Nat) (exponent : Int) : Option Float :=
  if digits = 0 then some (signed negative 0)
  else
    let size := digitCount digits + exponent
    if decimalReach < size then none
    else if size < -decimalReach then some (signed negative 0)
    else
      let x :=
        if 0 ≤ exponent then nearest negative (digits * Nat.pow 10 exponent.toNat) 0
        else nearestQuotient negative digits (Nat.pow 10 (-exponent).toNat)
      if x.isFinite then some x else none

end Soaring.Numeric
