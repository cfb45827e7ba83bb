/-!
Numerals to the base 36 with a fixed number of digits, as they are read out over the radio: the
digits `0` to `9` and the letters, the most significant one first.
-/
namespace Soaring.Team

def base : Nat := 36

abbrev Digit := Fin base

/-- The character of a digit; letters are upper case. -/
def Digit.toChar (d : Digit) : Char :=
  if d.val < 10 then Char.ofNat ('0'.toNat + d.val) else Char.ofNat ('A'.toNat + (d.val - 10))

/-- The digit of a number below the base. -/
def Digit.ofNat (value : Nat) : Digit := ⟨value % base, Nat.mod_lt value (by decide)⟩

/-- The digit that an ASCII digit or letter of either case stands for. -/
def Digit.ofChar? (c : Char) : Option Digit :=
  if '0' ≤ c ∧ c ≤ '9' then some (.ofNat (c.toNat - '0'.toNat))
  else if 'A' ≤ c ∧ c ≤ 'Z' then some (.ofNat (c.toNat - 'A'.toNat + 10))
  else if 'a' ≤ c ∧ c ≤ 'z' then some (.ofNat (c.toNat - 'a'.toNat + 10))
  else none

theorem Digit.ofChar?_toChar (d : Digit) : ofChar? d.toChar = some d := by
  revert d
  decide

/-- The last `count` digits of a number. Each is found by division by its own power of the base. -/
def digitsOf (value : Nat) : (count : Nat) → List Digit
  | 0 => []
  | count + 1 => .ofNat (value / base.pow count) :: digitsOf value count

def valueOf (digits : List Digit) : Nat :=
  digits.foldl (fun value digit => value * base + digit.val) 0

theorem length_digitsOf (value count : Nat) : (digitsOf value count).length = count := by
  induction count with
  | zero => rfl
  | succ count ih => simp [digitsOf, ih]

/-- A numeral of exactly `n` digits. -/
structure Numeral (n : Nat) where
  digits : List Digit
  length_eq : digits.length = n
  deriving DecidableEq

namespace Numeral

variable {n : Nat}

/-- A number written with `n` digits; digits beyond them are lost. -/
def ofNat (n value : Nat) : Numeral n := ⟨digitsOf value n, length_digitsOf value n⟩

def value (numeral : Numeral n) : Nat := valueOf numeral.digits

def text (numeral : Numeral n) : List Char := numeral.digits.map Digit.toChar

end Numeral

end Soaring.Team
