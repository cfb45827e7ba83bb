import Soaring.Numeric.Decimal

/-!
JSON values, in as much detail as reading records from them needs. Numbers are told apart by how
they were written, the members of an object keep their order and their repetitions, and what no
text or double can hold is kept as such: it does no harm where nobody looks at it.
-/
namespace Soaring.Record

inductive Json where
  | null
  | bool (value : Bool)
  /-- A number written without point and exponent, in the range of 64-bit words. -/
  | integer (value : Int)
  /-- Any other number. Infinities and NaN are kept here too, though no text spells them. -/
  | number (value : Float)
  /-- A number beyond the range of doubles. -/
  | hugeNumber
  | text (value : String)
  /-- A string with an escape for half of a surrogate pair, which spells no text. -/
  | brokenText
  | array (items : List Json)
  /-- The members in order; a key is missing if it spells no text. -/
  | object (members : List (Option String × Json))
  deriving Inhabited

namespace Json

/-- The least integer of a 64-bit word with sign. -/
def leastInteger : Int := -0x8000000000000000

/-- The first integer beyond a 64-bit word without sign. -/
def integerLimit : Int := 0x10000000000000000

/-- A number by its sign, its digits before and after the point and its exponent. A negative zero
is no integer. -/
def ofDigits (negative : Bool) (digits : Nat) (exponent : Int) (whole : Bool) : Json :=
  let value : Int := if negative then -digits else digits
  if whole && leastInteger ≤ value && value < integerLimit && !(negative && digits = 0) then
    integer value
  else match Numeric.ofDecimal? negative digits exponent with
    | some x => number x
    | none => hugeNumber

end Json

end Soaring.Record
