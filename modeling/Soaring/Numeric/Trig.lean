import Soaring.Numeric.Angle

/-!
Trigonometry on doubles with errors below one unit in the last place. Each function brings its
argument into a short interval and evaluates there a minimax polynomial or rational function, in a
fixed order of operations, so that results are the same on every machine.
-/
namespace Soaring.Numeric

/-- The sine of `x + y` for `x` within a quarter of pi and `y` far below its last place. -/
def sinKernel (x y : Float) : Float :=
  let z := x * x
  let w := z * z
  let r := 8.33333333332248946124e-03 + z * (-1.98412698298579493134e-04 +
      z * 2.75573137070700676789e-06) +
    z * w * (-2.50507602534068634195e-08 + z * 1.58969099521155010221e-10)
  let v := z * x
  let lead := -1.66666666666666324348e-01
  x - ((z * (0.5 * y - v * r) - y) - v * lead)

/-- The sine of `x` within a quarter of pi. -/
def sinKernelAlone (x : Float) : Float :=
  let z := x * x
  let w := z * z
  let r := 8.33333333332248946124e-03 + z * (-1.98412698298579493134e-04 +
      z * 2.75573137070700676789e-06) +
    z * w * (-2.50507602534068634195e-08 + z * 1.58969099521155010221e-10)
  let v := z * x
  let lead := -1.66666666666666324348e-01
  x + v * (lead + z * r)

/-- The cosine of `x + y` for `x` within a quarter of pi and `y` far below its last place. -/
def cosKernel (x y : Float) : Float :=
  let z := x * x
  let w := z * z
  let r := z * (4.16666666666666019037e-02 + z * (-1.38888888888741095749e-03 +
      z * 2.48015872894767294178e-05)) +
    w * w * (-2.75573143513906633035e-07 + z * (2.08757232129817482790e-09 +
      z * -1.13596475577881948265e-11))
  let half := 0.5 * z
  let rest := 1.0 - half
  rest + (((1.0 - rest) - half) + (z * r - x * y))

def twoPow (exponent : Int) : Float := nearest false 1 exponent

def sinPositive (x : Float) : Float :=
  if x < twoPow (-26) then x
  else
    let turn := reduce x
    if turn.quarters = 0 then sinKernelAlone x
    else match turn.quarters % 4 with
      | 0 => sinKernel turn.head turn.tail
      | 1 => cosKernel turn.head turn.tail
      | 2 => -sinKernel turn.head turn.tail
      | _ => -cosKernel turn.head turn.tail

/-- The sine of an angle in radians. -/
def sin (x : Float) : Float :=
  if !x.isFinite then nan
  else if (Dyad.ofFloat x).negative then -sinPositive x.abs
  else sinPositive x

/-- The cosine of an angle in radians. -/
def cos (x : Float) : Float :=
  if !x.isFinite then nan
  else
    let turn := reduce x.abs
    match turn.quarters % 4 with
    | 0 => cosKernel turn.head turn.tail
    | 1 => -sinKernel turn.head turn.tail
    | 2 => -cosKernel turn.head turn.tail
    | _ => sinKernel turn.head turn.tail

/-- The first half of a value that is held as a sum of two doubles: the nearest double to pi. -/
def piHead : Float := 3.1415926535897931160e+00

/-- What `piHead` lacks. -/
def piTail : Float := 1.2246467991473531772e-16

/-- The nearest double to half of pi. -/
def halfPiHead : Float := 1.57079632679489655800e+00

/-- What `halfPiHead` lacks. -/
def halfPiTail : Float := 6.12323399573676603587e-17

/-- The part that the odd powers from the third on take away from the arc tangent of a small
number, per unit of it. -/
def atanCorrection (x : Float) : Float :=
  let z := x * x
  let w := z * z
  let odd := z * (3.33333333333329318027e-01 + w * (1.42857142725034663711e-01 +
    w * (9.09088713343650656196e-02 + w * (6.66107313738753120669e-02 +
    w * (4.97687799461593236017e-02 + w * 1.62858201153657823623e-02)))))
  let even := w * (-1.99999999998764832476e-01 + w * (-1.11111104054623557880e-01 +
    w * (-7.69187620504482999495e-02 + w * (-5.83357013379057348645e-02 +
    w * -3.65315727442169155270e-02))))
  odd + even

/-- The arc tangent of a number that lies by the argument `x` off a point whose arc tangent is
`head + tail`. -/
def atanFrom (head tail x : Float) : Float :=
  head - ((x * atanCorrection x - tail) - x)

def atanPositive (x : Float) : Float :=
  if x < twoPow (-27) then x
  else if x < 0.4375 then x - x * atanCorrection x
  else if x < 0.6875 then
    atanFrom 4.63647609000806093515e-01 2.26987774529616870924e-17 ((2.0 * x - 1.0) / (2.0 + x))
  else if x < 1.1875 then
    atanFrom 7.85398163397448278999e-01 3.06161699786838301793e-17 ((x - 1.0) / (x + 1.0))
  else if x < 2.4375 then
    atanFrom 9.82793723247329054082e-01 1.39033110312309984516e-17
      ((x - 1.5) / (1.0 + 1.5 * x))
  else if x < twoPow 66 then atanFrom halfPiHead halfPiTail (-1.0 / x)
  else halfPiHead

/-- The arc tangent in radians. -/
def atan (x : Float) : Float :=
  if x.isNaN then x
  else if (Dyad.ofFloat x).negative then -atanPositive x.abs
  else atanPositive x

/-- The power of two of the leading digit of a double, counted from that of the smallest one, with
the first twenty digits behind it: enough to compare magnitudes. -/
def magnitude (x : Float) : Nat := x.abs.toBits.toNat >>> 32

/-- A factor of two to the sixty-fourth, in the units of `magnitude`. -/
def magnitudeGap : Nat := 64 <<< 20

/-- The direction of the point with the given coordinates, in radians from the positive `x` axis
toward the positive `y` axis, between minus pi and pi. A zero keeps the side that its sign names. -/
def atan2 (y x : Float) : Float :=
  if x.isNaN || y.isNaN then nan
  else if x == 1.0 then atan y
  else
    let below := (Dyad.ofFloat y).negative
    let left := (Dyad.ofFloat x).negative
    let toSide (angle : Float) := if below then -angle else angle
    if y == 0 then (if left then toSide piHead else y)
    else if x == 0 then toSide halfPiHead
    else if !x.isFinite then
      if !y.isFinite then toSide (if left then 3.0 * (piHead / 4.0) else piHead / 4.0)
      else toSide (if left then piHead else 0.0)
    else if !y.isFinite || magnitude x + magnitudeGap < magnitude y then toSide halfPiHead
    else
      let angle :=
        if left && magnitude y + magnitudeGap < magnitude x then 0.0 else atan (y / x).abs
      match left, below with
      | false, false => angle
      | false, true => -angle
      | true, false => piHead - (angle - piTail)
      | true, true => (angle - piTail) - piHead

/-- The part that the powers from the third on add to the arc sine of a number with square `z`,
per unit of it. -/
def asinCorrection (z : Float) : Float :=
  let dividend := z * (1.66666666666666657415e-01 + z * (-3.25565818622400915405e-01 +
    z * (2.01212532134862925881e-01 + z * (-4.00555345006794114027e-02 +
    z * (7.91534994289814532176e-04 + z * 3.47933107596021167570e-05)))))
  let divisor := 1.0 + z * (-2.40339491173441421878e+00 + z * (2.02094576023350569471e+00 +
    z * (-6.88283971605453293030e-01 + z * 7.70381505559019352791e-02)))
  dividend / divisor

/-- A double without the last 32 of its binary digits. -/
def coarse (x : Float) : Float := Float.ofBits (x.toBits >>> 32 <<< 32)

def asinPositive (x : Float) : Float :=
  if x == 1.0 then x * halfPiHead
  else if 1.0 < x then nan
  else if x < twoPow (-26) then x
  else if x < 0.5 then x + x * asinCorrection (x * x)
  else
    let z := (1.0 - x) * 0.5
    let s := z.sqrt
    let r := asinCorrection z
    if Float.ofBits 0x3FEF333300000000 ≤ x then
      halfPiHead - (2.0 * (s + s * r) - halfPiTail)
    else
      let f := coarse s
      let c := (z - f * f) / (s + f)
      0.5 * halfPiHead - (2.0 * s * r - (halfPiTail - 2.0 * c) - (0.5 * halfPiHead - 2.0 * f))

/-- The arc sine in radians; no number for arguments beyond one. -/
def asin (x : Float) : Float :=
  if x.isNaN then x
  else if (Dyad.ofFloat x).negative then -asinPositive x.abs
  else asinPositive x

def toRadians (degrees : Float) : Float := degrees * (piHead / 180.0)

def toDegrees (radians : Float) : Float := radians * (180.0 / piHead)

end Soaring.Numeric
