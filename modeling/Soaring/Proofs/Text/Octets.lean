import Mathlib.Data.List.Infix
import Soaring.Waypoint

/-!
Texts cut to a number of bytes. What fits is a prefix in whole characters, and the longest one: any
prefix of no more bytes is a prefix of it. So the cut is at the first character that does not fit,
even if a later and shorter one would, and as no character has more than four bytes it wastes three
at most.
-/
namespace Soaring

namespace Text

theorem byteCount_append (text more : List Char) :
    byteCount (text ++ more) = byteCount text + byteCount more := by
  induction text with
  | nil => exact (Nat.zero_add _).symm
  | cons c rest ih => rw [List.cons_append, byteCount, ih, byteCount, Nat.add_assoc]

/-- Every character takes at least one byte. -/
theorem byteCount_eq_zero_iff {text : List Char} : byteCount text = 0 ↔ text = [] := by
  cases text with
  | nil => simp [byteCount]
  | cons c rest =>
      have hSize := c.utf8Size_pos
      simp only [byteCount, reduceCtorEq, iff_false]
      omega

/-- The size of a string is the sum over its characters. -/
theorem utf8ByteSize_eq (text : String) : text.utf8ByteSize = byteCount text.toList := by
  rw [← utf8ByteSize_ofList, String.ofList_toList]

/-- The cut leaves the front of the text. -/
theorem fitting_isPrefix (room : Nat) (text : List Char) : fitting room text <+: text := by
  induction text generalizing room with
  | nil => exact List.prefix_refl []
  | cons c rest ih =>
      rw [fitting]
      by_cases hRoom : c.utf8Size ≤ room
      · rw [if_pos hRoom, List.prefix_cons_inj]
        exact ih _
      · rw [if_neg hRoom]
        exact List.nil_prefix

/-- The cut respects its limit in bytes. -/
theorem byteCount_fitting_le (room : Nat) (text : List Char) :
    byteCount (fitting room text) ≤ room := by
  induction text generalizing room with
  | nil => exact Nat.zero_le room
  | cons c rest ih =>
      rw [fitting]
      by_cases hRoom : c.utf8Size ≤ room
      · rw [if_pos hRoom, byteCount, ← Nat.le_sub_iff_add_le' hRoom]
        exact ih _
      · rw [if_neg hRoom]
        exact Nat.zero_le room

/-- Any prefix that has the room is a prefix of what fits. -/
theorem isPrefix_fitting {room : Nat} {short text : List Char} (hPrefix : short <+: text)
    (hBytes : byteCount short ≤ room) : short <+: fitting room text := by
  induction text generalizing room short with
  | nil => exact hPrefix
  | cons c rest ih =>
      cases short with
      | nil => exact List.nil_prefix
      | cons c' short =>
          obtain ⟨rfl, hRest⟩ := List.cons_prefix_cons.mp hPrefix
          rw [byteCount] at hBytes
          have hRoom : c'.utf8Size ≤ room := Nat.le_of_add_right_le hBytes
          rw [fitting, if_pos hRoom, List.prefix_cons_inj]
          exact ih hRest (Nat.le_sub_of_add_le' hBytes)

/-- Nothing is cut off exactly if the text fits. -/
theorem fitting_eq_self_iff {room : Nat} {text : List Char} :
    fitting room text = text ↔ byteCount text ≤ room := by
  constructor
  · intro hWhole
    rw [← hWhole]
    exact byteCount_fitting_le room text
  · intro hBytes
    have hSelf : text <+: fitting room text := isPrefix_fitting (List.prefix_refl text) hBytes
    exact (fitting_isPrefix room text).eq_of_length_le hSelf.length_le

/-- The character after what fits does not. -/
theorem lt_of_eq_fitting_append_cons {room : Nat} {text rest : List Char} {c : Char}
    (h : text = fitting room text ++ c :: rest) :
    room < byteCount (fitting room text) + c.utf8Size := by
  by_contra hRoom
  have hLonger : fitting room text ++ [c] <+: text :=
    ⟨rest, by rw [List.append_assoc, List.singleton_append, ← h]⟩
  have hBytes : byteCount (fitting room text ++ [c]) ≤ room := by
    rw [byteCount_append]
    exact Nat.le_of_not_lt hRoom
  have hLength := (isPrefix_fitting hLonger hBytes).length_le
  rw [List.length_append, List.length_singleton] at hLength
  exact absurd hLength (Nat.not_succ_le_self _)

/-- A text that does not fit as a whole has a next character, and that one does not. -/
theorem fitting_eq_self_or_next (room : Nat) (text : List Char) :
    fitting room text = text ∨ ∃ next rest, text = fitting room text ++ next :: rest ∧
      room < byteCount (fitting room text) + next.utf8Size := by
  obtain ⟨rest, hSplit⟩ := fitting_isPrefix room text
  cases rest with
  | nil =>
      rw [List.append_nil] at hSplit
      exact .inl hSplit
  | cons next rest =>
      exact .inr ⟨next, rest, hSplit.symm, lt_of_eq_fitting_append_cons hSplit.symm⟩

/-- A prefix of a string, which is always one in whole characters. -/
theorem exists_eq_append_iff {short text : String} :
    (∃ rest, text = short ++ rest) ↔ short.toList <+: text.toList := by
  constructor
  · rintro ⟨rest, rfl⟩
    exact ⟨rest.toList, String.toList_append.symm⟩
  · rintro ⟨rest, hSplit⟩
    refine ⟨String.ofList rest, ?_⟩
    rw [← String.toList_inj, String.toList_append, String.toList_ofList, hSplit]

end Text

namespace Waypoint

open Text

theorem toList_name_named (id : WaypointId) (name : String) (location : Geo.Point) :
    (named id name location).name.toList = fitting maxNameBytes name.toList :=
  String.toList_ofList

/-- The name of a waypoint is the longest prefix of the given one, in whole characters, of at most
32 bytes. It is the whole name if and only if that has no more; otherwise there is a next character,
which would have led beyond them, whatever comes after it. -/
theorem named_keeps_longest_prefix (id : WaypointId) (name : String) (location : Geo.Point) :
    let kept := (Waypoint.named id name location).name
    (∃ rest, name = kept ++ rest) ∧ kept.utf8ByteSize ≤ 32 ∧
    (∀ short rest : String, name = short ++ rest → short.utf8ByteSize ≤ 32 →
      ∃ more, kept = short ++ more) ∧
    (kept = name ↔ name.utf8ByteSize ≤ 32) ∧
    (kept = name ∨ ∃ (next : Char) (rest : String),
      name = kept ++ String.singleton next ++ rest ∧
      32 < kept.utf8ByteSize + next.utf8Size ∧ 29 ≤ kept.utf8ByteSize) := by
  intro kept
  have hKept : kept.toList = fitting 32 name.toList := toList_name_named id name location
  have hBytes : kept.utf8ByteSize = byteCount (fitting 32 name.toList) := by
    rw [utf8ByteSize_eq, hKept]
  refine ⟨?_, ?_, ?_, ?_, ?_⟩
  · rw [exists_eq_append_iff, hKept]
    exact fitting_isPrefix 32 name.toList
  · rw [hBytes]
    exact byteCount_fitting_le 32 name.toList
  · intro short rest hSplit hRoom
    rw [exists_eq_append_iff, hKept]
    apply isPrefix_fitting (exists_eq_append_iff.mp ⟨rest, hSplit⟩)
    rwa [← utf8ByteSize_eq]
  · rw [← String.toList_inj, hKept, utf8ByteSize_eq]
    exact fitting_eq_self_iff
  · rw [← String.toList_inj, hKept, hBytes]
    apply (fitting_eq_self_or_next 32 name.toList).imp_right
    rintro ⟨next, rest, hSplit, hOver⟩
    have hSize := next.utf8Size_le_four
    refine ⟨next, String.ofList rest, ?_, hOver, by omega⟩
    rw [← String.toList_inj, String.toList_append, String.toList_append, hKept,
      String.toList_singleton, String.toList_ofList, List.append_assoc, List.singleton_append]
    exact hSplit

/-- After 31 letters a character of two bytes is left out, and so is the single byte that follows
it, for which there would be room. -/
theorem letterAfterUmlaut_left_out :
    let letters := String.ofList (List.replicate 31 'a')
    let name := letters ++ String.ofList ['ü', 'b']
    let kept := (Waypoint.named ⟨7⟩ name ⟨0, 0⟩).name
    name = letters ++ String.ofList ['ü', 'b'] ∧ letters.utf8ByteSize ≤ 32 ∧
    (∃ more, kept = letters ++ more) ∧ kept = letters ∧
    (letters ++ String.ofList ['b']).utf8ByteSize ≤ 32 := by
  intro letters name kept
  have hLetters : letters.utf8ByteSize ≤ 32 := by
    rw [utf8ByteSize_ofList]
    decide
  obtain ⟨-, -, hLongest, -⟩ := named_keeps_longest_prefix ⟨7⟩ name ⟨0, 0⟩
  refine ⟨rfl, hLetters, hLongest letters _ rfl hLetters, ?_, ?_⟩
  · rw [← String.toList_inj, toList_name_named, String.toList_append, String.toList_ofList,
      String.toList_ofList]
    decide
  · rw [← String.ofList_append, utf8ByteSize_ofList]
    decide

end Waypoint

end Soaring
