import Soaring.Proofs.Team.Typed

/-!
The digits of team codes. Numbers and digits determine each other up to the power of the base, so a
code is its bearing and its range, and both can be read from its text, which is five digits and
upper-case letters however the code came about.
-/
namespace Soaring.Team

namespace Code

theorem length_text (c : Code) : c.text.length = codeLength := by
  rw [text_eq, List.length_map, length_digits]

/-- The characters of a code are ASCII, so they are as many bytes. -/
theorem byteCount_text (c : Code) : Text.byteCount c.text = codeLength := by
  rw [text_eq, byteCount_digits, length_digits]

theorem exists_digit_of_mem_text {c : Code} {char : Char} (h : char ∈ c.text) :
    ∃ d : Digit, char = d.toChar := by
  rw [text_eq] at h
  obtain ⟨d, -, rfl⟩ := List.mem_map.mp h
  exact ⟨d, rfl⟩

/-- The text of a code is one that is accepted as a code. -/
theorem isCodeText_text (c : Code) : IsCodeText c.text := by
  refine ⟨c.length_text, ?_⟩
  intro char hChar
  obtain ⟨d, rfl⟩ := exists_digit_of_mem_text hChar
  exact d.isAlphanum_toChar

/-- The first characters of a code spell its bearing, the others its range. -/
theorem spelled_text (c : Code) :
    spelled (c.text.take bearingDigits) = c.bearing.value ∧
    spelled (c.text.drop bearingDigits) = c.range.value := by
  have hBearing : c.bearing.text.length = bearingDigits := by
    rw [Numeral.text, List.length_map, c.bearing.length_eq]
  rw [text, List.take_left' hBearing, List.drop_left' hBearing]
  exact ⟨spelled_map_toChar _, spelled_map_toChar _⟩

/-- A code is its bearing and its range. -/
theorem eq_iff_value_eq {c d : Code} :
    c = d ↔ c.bearing.value = d.bearing.value ∧ c.range.value = d.range.value := by
  constructor
  · rintro rfl
    exact ⟨rfl, rfl⟩
  · rintro ⟨hBearing, hRange⟩
    obtain ⟨bearing, range⟩ := c
    obtain ⟨otherBearing, otherRange⟩ := d
    obtain rfl : bearing = otherBearing := Numeral.eq_of_value_eq hBearing
    obtain rfl : range = otherRange := Numeral.eq_of_value_eq hRange
    rfl

/-- Records keep codes. -/
theorem decode?_encode_teamCode (c : Code) :
    Record.Layout.teamCode.decode? (Record.Layout.teamCode.encode c) = some c := by
  rw [decode?_teamCode]
  refine ⟨String.ofList c.text, rfl, ?_, ?_⟩
  · rw [String.toList_ofList]
    exact c.isCodeText_text
  · rw [String.toList_ofList, parse_text]

end Code

/-- Any text spells less than the power of the base for its length. -/
theorem spelled_lt (text : List Char) : spelled text < base.pow text.length := by
  have hSmall := valueOf_lt (text.map fun c => (Digit.ofChar? c).getD (.ofNat 0))
  rwa [List.length_map] at hSmall

/-- The steps of a full turn are as many as two digits count. -/
theorem value_bearing_encode {α : Type} [Numeric.Scalar α] (bearing distance : α) :
    (Code.encode bearing distance).bearing.value = Code.stepOf bearing := by
  have hStep : Code.stepOf bearing < base.pow bearingDigits := Nat.mod_lt _ (base_pow_pos _)
  rw [Code.encode, Numeral.value_ofNat, Nat.mod_eq_of_lt hStep]

/-- Digits are exact and codes are well formed. A number written with some digits has as many
characters, digits and upper-case letters, and they spell its remainder by the power of the base; a
text of letters and digits is the number that it spells written with as many digits, in upper case;
and what no more characters than a code's spell fits a word of 32 bits.

The code of any two doubles has the digits of their step and their range value, of which the step is
never cut; the code of what was typed or recorded has its letters in upper case. Every code has five
characters of one byte, digits and upper-case letters, and all are read as digits; the first two
spell its bearing and the others its range; and it is read again from its text and from its record.
Codes are equal if and only if their bearings and their ranges are. -/
theorem digits_exact_and_codes_formed :
    (∀ value count,
      let written := (digitsOf value count).map Digit.toChar
      written.length = count ∧ (∀ c ∈ written, c.isDigit = true ∨ c.isUpper = true) ∧
      spelled written = value % base.pow count) ∧
    (∀ text : List Char, (∀ c ∈ text, c.isAlphanum = true) →
      (digitsOf (spelled text) text.length).map Digit.toChar = text.map Char.toUpper) ∧
    (∀ text : List Char, text.length ≤ codeLength → spelled text < UInt32.size) ∧
    (∀ bearing distance : Float,
      let code := Code.encode bearing distance
      code.text = (digitsOf (Code.stepOf bearing) bearingDigits).map Digit.toChar ++
        (digitsOf (Code.rangeOf distance) rangeDigits).map Digit.toChar ∧
      code.bearing.value = Code.stepOf bearing) ∧
    (∀ typed code, Code.parse typed = .ok code →
      code.text = (Text.trim typed).map Char.toUpper) ∧
    (∀ string code, Record.Layout.teamCode.decode? (.text string) = some code →
      code.text = string.toList.map Char.toUpper) ∧
    (∀ code : Code,
      code.text.length = 5 ∧ Text.byteCount code.text = 5 ∧
      (∀ c ∈ code.text, (c.isDigit = true ∨ c.isUpper = true) ∧ ∃ d, Digit.ofChar? c = some d) ∧
      spelled (code.text.take bearingDigits) = code.bearing.value ∧
      spelled (code.text.drop bearingDigits) = code.range.value ∧
      Code.parse code.text = .ok code ∧
      Record.Layout.teamCode.decode? (Record.Layout.teamCode.encode code) = some code) ∧
    ∀ code other : Code, code = other ↔
      code.bearing.value = other.bearing.value ∧ code.range.value = other.range.value := by
  refine ⟨?_, fun text => digitsOf_spelled, ?_, ?_, ?_, ?_, ?_,
    fun code other => Code.eq_iff_value_eq⟩
  · intro value count written
    refine ⟨by rw [List.length_map, length_digitsOf], ?_, ?_⟩
    · intro c hc
      obtain ⟨d, -, rfl⟩ := List.mem_map.mp hc
      exact d.isDigit_or_isUpper
    · rw [spelled_map_toChar, valueOf_digitsOf]
  · intro text hLength
    have hPower : base.pow text.length ≤ base.pow codeLength :=
      Nat.pow_le_pow_right (by decide) hLength
    have hWord : base.pow codeLength < UInt32.size := by decide
    exact (spelled_lt text).trans_le (hPower.trans hWord.le)
  · intro bearing distance code
    exact ⟨rfl, value_bearing_encode bearing distance⟩
  · exact fun typed code => Code.text_of_parse_eq_ok
  · intro string code hRead
    obtain ⟨_, hSame, hCode, hOk⟩ := decode?_teamCode.mp hRead
    cases hSame
    rw [Code.text_of_parse_eq_ok hOk, ← hCode.trims.eq_trim]
  · intro code
    obtain ⟨hBearing, hRange⟩ := code.spelled_text
    refine ⟨code.length_text, code.byteCount_text, ?_, hBearing, hRange, Code.parse_text code,
      code.decode?_encode_teamCode⟩
    intro c hc
    obtain ⟨d, rfl⟩ := Code.exists_digit_of_mem_text hc
    exact ⟨d.isDigit_or_isUpper, d, d.ofChar?_toChar⟩

/-- Three digits in lower case are those of the number that they spell, and a code typed with white
space around it has its letters in upper case. -/
theorem lowerCase_digits_exact :
    let typed := ['\t', 'z', 'z', '0', 'k', '4']
    (∀ c ∈ ['0', 'k', '4'], c.isAlphanum = true) ∧
    (digitsOf (spelled ['0', 'k', '4']) 3).map Digit.toChar = ['0', 'K', '4'] ∧
    ['0', 'k', '4'].length ≤ codeLength ∧ spelled ['0', 'k', '4'] < UInt32.size ∧
    ∃ code, Code.parse typed = .ok code ∧ code.text = ['Z', 'Z', '0', 'K', '4'] ∧
      spelled (code.text.take bearingDigits) = code.bearing.value := by
  intro typed
  obtain ⟨-, hText, hWord, -, hTyped, -, hFormed, -⟩ := digits_exact_and_codes_formed
  obtain ⟨code, hOk⟩ : ∃ code, Code.parse typed = .ok code := ⟨_, rfl⟩
  obtain ⟨-, -, -, hBearing, -⟩ := hFormed code
  have hAlphanum : ∀ c ∈ ['0', 'k', '4'], c.isAlphanum = true := by simp
  exact ⟨hAlphanum, hText _ hAlphanum, by decide, hWord _ (by decide), code, hOk,
    hTyped typed code hOk, hBearing⟩

end Soaring.Team
