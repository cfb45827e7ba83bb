import Soaring.Numeric.Binary64

/-!
Durations in whole nanoseconds, with a count of seconds that fits a 64-bit word.
-/
namespace Soaring

def nanosPerSecond : Nat := 1000000000

/-- The nanoseconds that a duration may not reach. -/
def durationLimit : Nat := UInt64.size * nanosPerSecond

/-- A span of time that is not negative. -/
structure Duration where
  nanoseconds : Nat
  lt_limit : nanoseconds < durationLimit
  deriving DecidableEq

namespace Duration

/-- A duration of some nanoseconds, unless they are too many. -/
def ofNanoseconds? (count : Nat) : Option Duration :=
  if h : count < durationLimit then some ⟨count, h⟩ else none

def zero : Duration := ⟨0, by decide⟩

instance : Inhabited Duration := ⟨zero⟩

def seconds (d : Duration) : Nat := d.nanoseconds / nanosPerSecond

/-- The nanoseconds beyond the whole seconds. -/
def subsecond (d : Duration) : Nat := d.nanoseconds % nanosPerSecond

/-- A number of seconds rounded to the nearest nanosecond, ties to even. Negative numbers, NaN and
numbers beyond the limit are no duration; a negative zero is zero. -/
def ofSeconds? (x : Float) : Option Duration :=
  if !x.isFinite || x < 0 then none
  else
    let d := Numeric.Dyad.ofFloat x
    let num := d.mantissa <<< d.exponent.toNat
    let den := 1 <<< (-d.exponent).toNat
    ofNanoseconds? (Numeric.divNearestEven (num * nanosPerSecond) den)

end Duration

end Soaring
