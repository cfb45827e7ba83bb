/-!
Sizes of texts in UTF-8 bytes. A limit in bytes never cuts through a character.
-/
namespace Soaring.Text

/-- The number of bytes of the UTF-8 form. -/
def byteCount : List Char → Nat
  | [] => 0
  | c :: rest => c.utf8Size + byteCount rest

/-- The limit of a string in bytes is that of its characters. -/
theorem utf8ByteSize_ofList (text : List Char) :
    (String.ofList text).utf8ByteSize = byteCount text := by
  induction text with
  | nil => simp [byteCount]
  | cons c rest ih =>
    rw [String.ofList_cons, String.utf8ByteSize_append, ih]
    simp [byteCount]

/-- The characters up to the first one that does not fit into the bytes left. A later and shorter
character is not taken in its place. -/
def fitting : (room : Nat) → List Char → List Char
  | _, [] => []
  | room, c :: rest => if c.utf8Size ≤ room then c :: fitting (room - c.utf8Size) rest else []

end Soaring.Text
