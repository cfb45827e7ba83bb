import Soaring.Error
import Soaring.Geo.Point
import Soaring.Team.Numeral
import Soaring.Text.Blank
import Soaring.Text.Octets

/-!
Team codes: positions relative to an agreed waypoint in five digits to the base 36. Two digits give
the bearing in 1296 steps to the turn, three the range in units of 100 metres. The code is short
enough for the radio and loses at most half a step of each.
-/
namespace Soaring.Team

open Soaring.Numeric (Scalar normalizeBearing)

def bearingDigits : Nat := 2

def rangeDigits : Nat := 3

def codeLength : Nat := bearingDigits + rangeDigits

def bearingSteps : Nat := base.pow bearingDigits

def maxRange : Nat := base.pow rangeDigits - 1

/-- The metres of one unit of range. -/
def rangeUnit : Nat := 100

/-- A bearing and a range as digits. -/
structure Code where
  bearing : Numeral bearingDigits
  range : Numeral rangeDigits
  deriving DecidableEq

namespace Code

section Reckoning

variable {α : Type} [Scalar α]

/-- The step nearest to a bearing in degrees. The step next to a full turn is north again. -/
def stepOf (bearing : α) : Nat :=
  Scalar.wholePart (Scalar.roundHalfAway
      (normalizeBearing bearing * Scalar.ofCount bearingSteps / Scalar.ofCount 360)) %
    bearingSteps

/-- The range value nearest to a distance in metres, within the range of the digits. -/
def rangeOf (distance : α) : Nat :=
  Scalar.wholePart (Scalar.smaller
    (Scalar.roundHalfAway (Scalar.larger distance (Scalar.ofCount 0) / Scalar.ofCount rangeUnit))
    (Scalar.ofCount maxRange))

/-- The code nearest to a bearing in degrees and a distance in metres. -/
def encode (bearing distance : α) : Code :=
  { bearing := .ofNat bearingDigits (stepOf bearing)
    range := .ofNat rangeDigits (rangeOf distance) }

/-- The bearing that a code names, in degrees. -/
def degrees (c : Code) : α :=
  normalizeBearing
    (Scalar.ofCount c.bearing.value * Scalar.ofCount 360 / Scalar.ofCount bearingSteps)

/-- The distance that a code names, in metres. -/
def metres (c : Code) : α :=
  Scalar.ofCount c.range.value * Scalar.ofCount rangeUnit

end Reckoning

def ofPosition (reference position : Geo.Point) : Code :=
  let course := reference.courseTo position
  encode course.bearing course.distance

def location (c : Code) (reference : Geo.Point) : Geo.Point :=
  reference.destination c.degrees c.metres

/-- The five characters of a code. -/
def text (c : Code) : List Char := c.bearing.text ++ c.range.text

/-- The code of five digits, the first two of which are those of the bearing. -/
def ofDigits? : List Digit → Option Code
  | [a, b, c, d, e] => some ⟨⟨[a, b], rfl⟩, ⟨[c, d, e], rfl⟩⟩
  | _ => none

/-- Reads a code as it was typed, with white space around it and letters in either case. The length
is judged in bytes, so a text of five characters may be too long. -/
def parse (typed : List Char) : Except Error Code :=
  let kept := Text.trim typed
  if Text.byteCount kept ≠ codeLength then .error (.invalidTeamCode .wrongLength)
  else match (kept.mapM Digit.ofChar?).bind ofDigits? with
    | some code => .ok code
    | none => .error (.invalidTeamCode .notAlphanumeric)

/-- A digit's character is one byte long and no white space. -/
theorem plain_digit (d : Digit) : d.toChar.utf8Size = 1 ∧ Text.isBlank d.toChar = false := by
  revert d
  decide

theorem text_eq (c : Code) : c.text = (c.bearing.digits ++ c.range.digits).map Digit.toChar := by
  simp [text, Numeral.text]

theorem length_digits (c : Code) : (c.bearing.digits ++ c.range.digits).length = codeLength := by
  rw [List.length_append, c.bearing.length_eq, c.range.length_eq]
  rfl

theorem ofDigits?_digits (c : Code) : ofDigits? (c.bearing.digits ++ c.range.digits) = some c := by
  obtain ⟨⟨bearing, hb⟩, ⟨range, hr⟩⟩ := c
  match bearing, range, hb, hr with
  | [_, _], [_, _, _], _, _ => rfl

/-- White space is trimmed from neither end of digits. -/
theorem trim_digits (digits : List Digit) :
    Text.trim (digits.map Digit.toChar) = digits.map Digit.toChar := by
  have plain : ∀ digits : List Digit,
      (digits.map Digit.toChar).dropWhile Text.isBlank = digits.map Digit.toChar := by
    intro digits
    cases digits with
    | nil => rfl
    | cons d rest => simp [(plain_digit d).2]
  rw [Text.trim, plain, ← List.map_reverse, plain, List.map_reverse, List.reverse_reverse]

theorem byteCount_digits (digits : List Digit) :
    Text.byteCount (digits.map Digit.toChar) = digits.length := by
  induction digits with
  | nil => rfl
  | cons d rest ih =>
    rw [List.map_cons, Text.byteCount, ih, (plain_digit d).1, List.length_cons, Nat.add_comm]

theorem mapM_digits (digits : List Digit) :
    (digits.map Digit.toChar).mapM Digit.ofChar? = some digits := by
  induction digits with
  | nil => rfl
  | cons d rest ih => simp [Digit.ofChar?_toChar, ih]

/-- The text of a code is read as that code. -/
theorem parse_text (c : Code) : parse c.text = .ok c := by
  rw [parse, text_eq, trim_digits, byteCount_digits, length_digits, mapM_digits]
  simp [ofDigits?_digits]

end Code

end Soaring.Team
