/-!
Doubles as exact numbers. A finite double is a whole number times a power of two, so remainders and
roundings that hardware or a library would only approximate are computed here on whole numbers and
put back into a double without error.
-/
namespace Soaring.Numeric

/-- The number of different fractions, which fill the low 52 binary digits of a double. -/
def fractionSize : Nat := 0x10000000000000

/-- The number of different exponent fields, which fill the eleven digits above the fraction. -/
def fieldSize : Nat := 0x800

/-- The value of the sign's place, the highest one. -/
def signBit : Nat := 0x8000000000000000

/-- A finite double read exactly: `mantissa * 2 ^ exponent`, negated when `negative` is set.
Both zeros have mantissa zero and differ in the sign. -/
structure Dyad where
  negative : Bool
  mantissa : Nat
  exponent : Int
  deriving DecidableEq

/-- The exact value of a finite double. The fields of infinities and NaN carry no meaning. -/
def Dyad.ofFloat (x : Float) : Dyad :=
  let bits := x.toBits.toNat
  let fraction := bits % fractionSize
  let field := bits / fractionSize % fieldSize
  { negative := signBit ≤ bits
    mantissa := if field = 0 then fraction else fraction + fractionSize
    exponent := (max field 1 : Nat) - 1075 }

/-- The quotient of two whole numbers, rounded to the nearest one; a tie goes to the even
neighbour. -/
def divNearestEven (num den : Nat) : Nat :=
  let quotient := num / den
  let twice := 2 * (num % den)
  if twice < den ∨ (twice = den ∧ quotient % 2 = 0) then quotient else quotient + 1

/-- The quotient of two whole numbers, rounded to the nearest one; a tie goes up. -/
def divNearestUp (num den : Nat) : Nat :=
  (2 * num + den) / (2 * den)

/-- Attaches a sign to the bit pattern of a positive double. -/
def signed (negative : Bool) (bits : Nat) : Float :=
  Float.ofBits (UInt64.ofNat (if negative then bits + signBit else bits))

def infinityBits : Nat := 0x7FF0000000000000

/-- The double nearest to `mantissa * 2 ^ exponent`, ties to even. The last place kept is that of
53 significant bits, or that of the smallest double if the value is tiny. The pattern of a carry
into the next binade, and that of a subnormal number, come out of the same sum. -/
def nearest (negative : Bool) (mantissa : Nat) (exponent : Int) : Float :=
  if mantissa = 0 then signed negative 0
  else
    let place := max (exponent + (mantissa.log2 + 1 : Nat) - 53) (-1074)
    let kept :=
      if place ≤ exponent then mantissa <<< (exponent - place).toNat
      else divNearestEven mantissa (1 <<< (place - exponent).toNat)
    signed negative (min ((place + 1074).toNat * fractionSize + kept) infinityBits)

/-- The value that no arithmetic accepts. -/
def nan : Float := 0.0 / 0.0

/-- The remainder of a division whose quotient is cut toward zero. It has the sign of the dividend
and is exact. -/
def remTrunc (x y : Float) : Float :=
  if !x.isFinite || y.isNaN || y == 0 then nan
  else if !y.isFinite then x
  else
    let a := Dyad.ofFloat x
    let b := Dyad.ofFloat y
    let place := min a.exponent b.exponent
    let num := a.mantissa <<< (a.exponent - place).toNat
    let den := b.mantissa <<< (b.exponent - place).toNat
    nearest a.negative (num % den) place

/-- The nearest whole number; a half goes away from zero. Infinities and NaN stay as they are. -/
def roundHalfAway (x : Float) : Float :=
  if !x.isFinite then x
  else
    let d := Dyad.ofFloat x
    if 0 ≤ d.exponent then x
    else nearest d.negative (divNearestUp d.mantissa (1 <<< (-d.exponent).toNat)) 0

/-- The largest count that a 32-bit word holds. -/
def countLimit : Nat := UInt32.size - 1

/-- The whole part of a number as a count: zero for negative numbers and NaN, and at most
`countLimit`. -/
def wholePart (x : Float) : Nat :=
  if x.isNaN || x ≤ 0 then 0
  else if !x.isFinite then countLimit
  else
    let d := Dyad.ofFloat x
    let whole :=
      if 0 ≤ d.exponent then d.mantissa <<< d.exponent.toNat
      else d.mantissa >>> (-d.exponent).toNat
    min whole countLimit

/-- The larger of two numbers. A NaN counts as missing, so it only comes out if both are NaN. -/
def larger (x y : Float) : Float :=
  if x.isNaN then y
  else if y.isNaN then x
  else if x < y then y
  else x

/-- The smaller of two numbers. A NaN counts as missing, so it only comes out if both are NaN. -/
def smaller (x y : Float) : Float :=
  if x.isNaN then y
  else if y.isNaN then x
  else if y < x then y
  else x

/-- Limits a number to the range from `low` to `high`. NaN stays NaN. -/
def clamp (low high x : Float) : Float :=
  if x < low then low else if high < x then high else x

end Soaring.Numeric
