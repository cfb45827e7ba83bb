/-!
Ring buffers: a fixed number of slots that keep the items pushed last. The view of a ring is the
list of its items, oldest first; where in the slots they stand is not visible.
-/
namespace Soaring

/-- A ring with `n` slots. Items are written to slot `next`, which comes round again after the
last slot; as there is a next slot, there is at least one. -/
structure Ring (α : Type) (n : Nat) where
  slots : Vector (Option α) n
  next : Fin n
  size : Nat
  size_le : size ≤ n := by omega

namespace Ring

variable {α : Type} {n : Nat}

def empty (pos : 0 < n := by decide) : Ring α n :=
  { slots := Vector.replicate n none
    next := ⟨0, pos⟩
    size := 0
    size_le := Nat.zero_le n }

theorem pos (r : Ring α n) : 0 < n := r.next.pos

/-- The slot that some steps from the first one lead to, around the ring as often as needed. -/
def slotAfter (r : Ring α n) (steps : Nat) : Fin n := ⟨steps % n, Nat.mod_lt steps r.pos⟩

def clear (r : Ring α n) : Ring α n := empty r.pos

/-- Writes an item, over the oldest one if all slots are taken. -/
def push (r : Ring α n) (item : α) : Ring α n :=
  { slots := r.slots.set r.next (some item)
    next := r.slotAfter (r.next.val + 1)
    size := min (r.size + 1) n
    size_le := Nat.min_le_right _ _ }

def capacity (_ : Ring α n) : Nat := n

def isEmpty (r : Ring α n) : Bool := r.size == 0

def isFull (r : Ring α n) : Bool := r.size == n

/-- The item at a position counted from the oldest one. Before the ring is full, positions and
slots agree; afterwards the oldest item is the one to be overwritten next. -/
def get? (r : Ring α n) (index : Nat) : Option α :=
  if r.size ≤ index then none
  else if r.size < n then r.slots[r.slotAfter index]
  else r.slots[r.slotAfter (r.next.val + index)]

def last? (r : Ring α n) : Option α :=
  if r.isEmpty then none else r.slots[r.slotAfter (r.next.val + (n - 1))]

/-- A reading position in a ring. -/
structure Cursor (α : Type) (n : Nat) where
  ring : Ring α n
  index : Nat

/-- The reading position at the oldest item. -/
def cursor (r : Ring α n) : Cursor α n := ⟨r, 0⟩

/-- The item at the reading position, and the position behind it. -/
def Cursor.next? (c : Cursor α n) : Option (α × Cursor α n) :=
  (c.ring.get? c.index).map fun item => (item, { c with index := c.index + 1 })

/-- The reading position after a number of reads; at the end reading has no effect. -/
def Cursor.skip (c : Cursor α n) : Nat → Cursor α n
  | 0 => c
  | count + 1 => match c.next? with
    | some (_, rest) => rest.skip count
    | none => c

/-- The number of items still to be read. -/
def Cursor.remaining (c : Cursor α n) : Nat := c.ring.size - c.index

/-- Bounds of the number of items still to be read, from below and, if one is known, from above. -/
def Cursor.sizeHint (c : Cursor α n) : Nat × Option Nat := (c.remaining, some c.remaining)

/-- The items read in the given number of reads, up to the end. -/
def Cursor.take (c : Cursor α n) : Nat → List α
  | 0 => []
  | count + 1 => match c.next? with
    | some (item, rest) => item :: rest.take count
    | none => []

/-- All items, oldest first. -/
def toList (r : Ring α n) : List α := r.cursor.take r.size

/-- Rings are equal if their items are, whatever slots these stand in. -/
instance [BEq α] : BEq (Ring α n) where
  beq a b := a.size == b.size && a.toList == b.toList

end Ring

end Soaring
