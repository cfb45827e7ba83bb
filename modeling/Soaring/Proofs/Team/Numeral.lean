import Mathlib.Tactic.Ring
import Soaring.Team.Code

/-!
Numerals as a positional system. Writing a number with some digits keeps its remainder below the
power of the base, and digits are those of the number that they spell. A digit is read from the
letters of both cases, and written with the upper one.
-/
namespace Soaring.Team

/-- What holds of 128 characters one by one holds of all of ASCII. -/
theorem ascii_forall {P : Char → Prop} (hAscii : ∀ n < 128, P (Char.ofNat n)) {c : Char}
    (h : c.toNat < 128) : P c := by
  rw [← Char.ofNat_toNat c]
  exact hAscii c.toNat h

namespace Digit

theorem toNat_le {c limit : Char} (h : c ≤ limit) : c.toNat ≤ limit.toNat :=
  UInt32.le_iff_toNat_le.mp h

/-- Outside of ASCII nothing is a digit. -/
theorem ofChar?_eq_none {c : Char} (h : 128 ≤ c.toNat) : ofChar? c = none := by
  have hBeyond (limit : Char) (hLimit : limit.toNat < 128) : ¬ c ≤ limit := fun hLe =>
    absurd (toNat_le hLe) (Nat.not_le.mpr (hLimit.trans_le h))
  simp [ofChar?, hBeyond '9' (by decide), hBeyond 'Z' (by decide), hBeyond 'z' (by decide)]

theorem toNat_lt_of_isAlphanum {c : Char} (h : c.isAlphanum = true) : c.toNat < 128 := by
  have hRanges : ((c.isUpper || c.isLower) || c.isDigit) = true := h
  rw [Bool.or_eq_true, Bool.or_eq_true] at hRanges
  rcases hRanges with (hUpper | hLower) | hDigit
  · have hLe : c ≤ 'Z' := (of_decide_eq_true hUpper).2
    exact (toNat_le hLe).trans_lt (by decide)
  · have hLe : c ≤ 'z' := of_decide_eq_true (Bool.and_eq_true_iff.mp hLower).2
    exact (toNat_le hLe).trans_lt (by decide)
  · have hLe : c ≤ '9' := of_decide_eq_true (Bool.and_eq_true_iff.mp hDigit).2
    exact (toNat_le hLe).trans_lt (by decide)

/-- What is read as a digit are the ASCII letters and digits, and the digit is written as their
upper-case form. -/
theorem map_toChar_ofChar? (c : Char) :
    (ofChar? c).map toChar = if c.isAlphanum then some c.toUpper else none := by
  by_cases hSmall : c.toNat < 128
  · apply ascii_forall _ hSmall
    decide
  · have hOther : ¬ c.isAlphanum = true := mt toNat_lt_of_isAlphanum hSmall
    rw [ofChar?_eq_none (Nat.le_of_not_lt hSmall), if_neg hOther]
    rfl

/-- ASCII letters and decimal digits are the digits of the system, letters in either case. -/
theorem exists_ofChar? {c : Char} (h : c.isAlphanum = true) :
    ∃ d, ofChar? c = some d ∧ d.toChar = c.toUpper := by
  have hRead := map_toChar_ofChar? c
  rw [if_pos h] at hRead
  exact Option.map_eq_some_iff.mp hRead

/-- Different digits are written differently. -/
theorem toChar_inj {d e : Digit} (h : d.toChar = e.toChar) : d = e := by
  apply Option.some.inj
  rw [← ofChar?_toChar d, h, ofChar?_toChar]

/-- A character is a digit if its upper case is how the digit is written. -/
theorem ofChar?_eq_some_iff {c : Char} {d : Digit} :
    ofChar? c = some d ↔ c.isAlphanum = true ∧ d.toChar = c.toUpper := by
  constructor
  · intro hRead
    have hChar := map_toChar_ofChar? c
    rw [hRead] at hChar
    split at hChar
    · next hAlphanum => exact ⟨hAlphanum, Option.some.inj hChar⟩
    · cases hChar
  · rintro ⟨hAlphanum, hChar⟩
    obtain ⟨e, hRead, hUpper⟩ := exists_ofChar? hAlphanum
    rw [hRead, toChar_inj (hUpper.trans hChar.symm)]

/-- The character of a digit is a digit or an upper-case letter. -/
theorem isDigit_or_isUpper (d : Digit) : d.toChar.isDigit = true ∨ d.toChar.isUpper = true := by
  revert d
  decide

theorem isAlphanum_toChar (d : Digit) : d.toChar.isAlphanum = true := by
  revert d
  decide

end Digit

/-- The characters that are all read as digits are those of texts of ASCII letters and digits, and
they are read as the digits of the upper-case form. -/
theorem mapM_ofChar?_eq_some_iff {text : List Char} {digits : List Digit} :
    text.mapM Digit.ofChar? = some digits ↔
      (∀ c ∈ text, c.isAlphanum = true) ∧ digits.map Digit.toChar = text.map Char.toUpper := by
  induction text generalizing digits with
  | nil => simp
  | cons c rest ih =>
      simp only [List.mapM_cons, Option.bind_eq_bind, Option.bind_eq_some_iff, Option.pure_def,
        Option.some.injEq, List.forall_mem_cons, List.map_cons]
      constructor
      · rintro ⟨d, hFirst, others, hRest, rfl⟩
        obtain ⟨hAlphanum, hChar⟩ := Digit.ofChar?_eq_some_iff.mp hFirst
        obtain ⟨hAll, hChars⟩ := ih.mp hRest
        exact ⟨⟨hAlphanum, hAll⟩, by rw [List.map_cons, hChar, hChars]⟩
      · rintro ⟨⟨hAlphanum, hAll⟩, hChars⟩
        obtain ⟨d, others, rfl, hChar, hOthers⟩ := List.map_eq_cons_iff.mp hChars
        exact ⟨d, Digit.ofChar?_eq_some_iff.mpr ⟨hAlphanum, hChar⟩, others,
          ih.mpr ⟨hAll, hOthers⟩, rfl⟩

/-- Every text of ASCII letters and digits is read. -/
theorem exists_mapM_ofChar? {text : List Char} (h : ∀ c ∈ text, c.isAlphanum = true) :
    ∃ digits, text.mapM Digit.ofChar? = some digits := by
  induction text with
  | nil => exact ⟨[], rfl⟩
  | cons c rest ih =>
      obtain ⟨hFirst, hRest⟩ := List.forall_mem_cons.mp h
      obtain ⟨d, hDigit, -⟩ := Digit.exists_ofChar? hFirst
      obtain ⟨digits, hDigits⟩ := ih hRest
      exact ⟨d :: digits, by simp [hDigit, hDigits]⟩

theorem base_pow_succ (count : Nat) : base.pow (count + 1) = base.pow count * base := rfl

theorem base_pow_pos (count : Nat) : 0 < base.pow count := Nat.pow_pos (by decide)

/-- Evaluation may start from what earlier digits have come to. -/
theorem foldl_digits (start : Nat) (digits : List Digit) :
    digits.foldl (fun value digit => value * base + digit.val) start =
      start * base.pow digits.length + valueOf digits := by
  induction digits generalizing start with
  | nil => exact (Nat.mul_one start).symm
  | cons d rest ih =>
      rw [valueOf, List.foldl_cons, List.foldl_cons, ih, ih (0 * base + d.val), List.length_cons,
        base_pow_succ]
      ring

/-- The first digit counts for the power of the base that the others leave to it. -/
theorem valueOf_cons (d : Digit) (rest : List Digit) :
    valueOf (d :: rest) = d.val * base.pow rest.length + valueOf rest := by
  rw [valueOf, List.foldl_cons, foldl_digits, Nat.zero_mul, Nat.zero_add]

/-- A number of so many digits stays below that power of the base. -/
theorem valueOf_lt (digits : List Digit) : valueOf digits < base.pow digits.length := by
  induction digits with
  | nil => decide
  | cons d rest ih =>
      rw [valueOf_cons, List.length_cons, base_pow_succ]
      calc d.val * base.pow rest.length + valueOf rest
          < d.val * base.pow rest.length + base.pow rest.length := Nat.add_lt_add_left ih _
        _ = (d.val + 1) * base.pow rest.length := (Nat.succ_mul ..).symm
        _ ≤ base * base.pow rest.length := Nat.mul_le_mul_right _ d.isLt
        _ = base.pow rest.length * base := Nat.mul_comm ..

/-- Digits written for a number spell what remains of it below the power of the base. -/
theorem valueOf_digitsOf (value count : Nat) :
    valueOf (digitsOf value count) = value % base.pow count := by
  induction count with
  | zero => exact (Nat.mod_one value).symm
  | succ count ih =>
      have hDigit : (Digit.ofNat (value / base.pow count)).val =
          value / base.pow count % base := rfl
      rw [digitsOf, valueOf_cons, length_digitsOf, ih, hDigit, base_pow_succ, Nat.mod_mul]
      ring

/-- As many digits spell the same number only if they are the same. -/
theorem eq_of_valueOf_eq {digits others : List Digit} (hLength : digits.length = others.length)
    (hValue : valueOf digits = valueOf others) : digits = others := by
  induction digits generalizing others with
  | nil => exact (List.eq_nil_of_length_eq_zero hLength.symm).symm
  | cons d rest ih =>
      cases others with
      | nil => cases hLength
      | cons e more =>
          have hRest : rest.length = more.length := Nat.succ.inj hLength
          rw [valueOf_cons, valueOf_cons, hRest] at hValue
          have hSmall := valueOf_lt rest
          have hOther := valueOf_lt more
          rw [hRest] at hSmall
          have hFirst : d.val = e.val := by
            have hDiv : (d.val * base.pow more.length + valueOf rest) / base.pow more.length =
                (e.val * base.pow more.length + valueOf more) / base.pow more.length :=
              congrArg (· / base.pow more.length) hValue
            rwa [Nat.mul_comm, Nat.mul_add_div (base_pow_pos _), Nat.div_eq_of_lt hSmall,
              Nat.mul_comm, Nat.mul_add_div (base_pow_pos _), Nat.div_eq_of_lt hOther] at hDiv
          obtain rfl := Fin.ext hFirst
          rw [ih hRest (Nat.add_left_cancel hValue)]

/-- Digits are those of the number that they spell. -/
theorem digitsOf_valueOf (digits : List Digit) :
    digitsOf (valueOf digits) digits.length = digits := by
  apply eq_of_valueOf_eq (length_digitsOf ..)
  rw [valueOf_digitsOf, Nat.mod_eq_of_lt (valueOf_lt digits)]

namespace Numeral

variable {n : Nat}

/-- A number written with `n` digits is its remainder. -/
theorem value_ofNat (n value : Nat) : (ofNat n value).value = value % base.pow n :=
  valueOf_digitsOf value n

theorem value_lt (numeral : Numeral n) : numeral.value < base.pow n := by
  have hSmall := valueOf_lt numeral.digits
  rwa [numeral.length_eq] at hSmall

/-- Numerals are equal if they spell the same number. -/
theorem eq_of_value_eq {numeral other : Numeral n} (h : numeral.value = other.value) :
    numeral = other := by
  obtain ⟨digits, hLength⟩ := numeral
  obtain ⟨others, hOther⟩ := other
  obtain rfl : digits = others := eq_of_valueOf_eq (hLength.trans hOther.symm) h
  rfl

/-- A numeral is the number that it spells, written with as many digits. -/
theorem ofNat_value (numeral : Numeral n) : ofNat n numeral.value = numeral := by
  apply eq_of_value_eq
  rw [value_ofNat, Nat.mod_eq_of_lt numeral.value_lt]

end Numeral

/-- The number that a text spells. A character that is no digit counts as zero. -/
def spelled (text : List Char) : Nat :=
  valueOf (text.map fun c => (Digit.ofChar? c).getD (.ofNat 0))

theorem spelled_map_toChar (digits : List Digit) :
    spelled (digits.map Digit.toChar) = valueOf digits := by
  simp [spelled, Function.comp_def, Digit.ofChar?_toChar]

/-- The case of letters makes no difference to the number. -/
theorem spelled_of_mapM {text : List Char} {digits : List Digit}
    (h : text.mapM Digit.ofChar? = some digits) : spelled text = valueOf digits := by
  have hRead : text.map (fun c => (Digit.ofChar? c).getD (.ofNat 0)) = digits := by
    induction text generalizing digits with
    | nil =>
        cases h
        rfl
    | cons c rest ih =>
        simp only [List.mapM_cons, Option.bind_eq_bind, Option.bind_eq_some_iff, Option.pure_def,
          Option.some.injEq] at h
        obtain ⟨d, hFirst, others, hRest, rfl⟩ := h
        rw [List.map_cons, hFirst, ih hRest]
        rfl
  rw [spelled, hRead]

/-- A text of ASCII letters and digits is the number that it spells, but for the case of letters. -/
theorem digitsOf_spelled {text : List Char} (h : ∀ c ∈ text, c.isAlphanum = true) :
    (digitsOf (spelled text) text.length).map Digit.toChar = text.map Char.toUpper := by
  obtain ⟨digits, hRead⟩ := exists_mapM_ofChar? h
  have hChars := (mapM_ofChar?_eq_some_iff.mp hRead).2
  have hLength : text.length = digits.length := by
    rw [← List.length_map Char.toUpper, ← hChars, List.length_map]
  rw [spelled_of_mapM hRead, hLength, digitsOf_valueOf, hChars]

end Soaring.Team
