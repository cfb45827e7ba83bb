import Mathlib.Data.List.Forall2
import Mathlib.Data.List.Induction
import Soaring.Proofs.Store.Ring

/-!
Rings against their history. Whatever was pushed and cleared, a ring shows the items pushed last
since it was cleared, as many as it has slots. Every way of looking at a ring is a way of looking at
that list, so where in the slots the items stand cannot be told from outside.
-/
namespace Soaring.Ring

variable {α : Type} {n : Nat}

inductive Change (α : Type) where
  | push (item : α)
  | clear

def change (r : Ring α n) : Change α → Ring α n
  | .push item => r.push item
  | .clear => r.clear

def after (r : Ring α n) (changes : List (Change α)) : Ring α n := changes.foldl change r

/-- The items pushed by some changes since the last time that they cleared, oldest first. -/
def pushedSinceClear (changes : List (Change α)) : List α :=
  changes.foldl (fun pushed change => match change with
    | .push item => pushed ++ [item]
    | .clear => []) []

/-- A ring that was empty at first holds the end of its history. -/
theorem holds_after (pos : 0 < n) (changes : List (Change α)) :
    ((empty pos : Ring α n).after changes).Holds ((pushedSinceClear changes).rtake n) := by
  induction changes using List.reverseRecOn with
  | nil =>
      rw [pushedSinceClear, List.foldl_nil, List.rtake_nil]
      exact holds_empty pos
  | append_singleton past last ih =>
      unfold after pushedSinceClear at ih ⊢
      rw [List.foldl_append, List.foldl_append]
      cases last with
      | push item =>
          have hPush := (ih.wellFormed.holds_push item).wellFormed
          have hItems := ih.wellFormed.toList_push_rtake ih.toList item
          rw [WellFormed, hItems] at hPush
          exact hPush
      | clear =>
          rw [List.foldl_cons, List.foldl_nil, List.foldl_cons, List.foldl_nil, List.rtake_nil]
          exact holds_empty pos

section

variable {r : Ring α n} {items : List α}

theorem Holds.isEmpty_eq (h : r.Holds items) : r.isEmpty = items.isEmpty := by
  rw [isEmpty, ← h.length]
  cases items <;> rfl

/-- The item before the next slot, around the ring if need be, is the last one. -/
theorem Holds.last?_eq (h : r.Holds items) : r.last? = items.getLast? := by
  have hLength := h.length
  have hSize := r.size_le
  cases items with
  | nil =>
      rw [last?, h.isEmpty_eq]
      rfl
  | cons item rest =>
      have hSlot : r.last? = r.slot (r.slotAfter (r.next.val + (n - 1))) := by
        rw [last?, h.isEmpty_eq]
        rfl
      have hSome : 0 < r.size := hLength ▸ Nat.succ_pos rest.length
      rw [List.getLast?_eq_getElem?, ← h.get?_eq, hLength, hSlot]
      by_cases hRoom : r.size < n
      · rw [get?_of_room r (by omega) hRoom]
        apply congrArg r.slot
        apply Fin.ext
        change (r.next.val + (n - 1)) % n = r.size - 1
        rw [h.next hRoom, show r.size + (n - 1) = r.size - 1 + n by omega, Nat.add_mod_right,
          Nat.mod_eq_of_lt (by omega)]
      · rw [show r.size = n by omega, get?_of_full r (by omega) (by omega)]

/-- Reads move the position on, up to the end and not beyond. -/
theorem Holds.skip_cursor (h : r.Holds items) (reads index : Nat) (hIndex : index ≤ r.size) :
    (Cursor.mk r index).skip reads = ⟨r, min (index + reads) r.size⟩ := by
  induction reads generalizing index with
  | zero => rw [Cursor.skip, Nat.add_zero, Nat.min_eq_left hIndex]
  | succ reads ih =>
      rw [Cursor.skip, Cursor.next?]
      dsimp only
      rw [h.get?_eq]
      rcases Nat.lt_or_eq_of_le hIndex with hMore | hEnd
      · have hItem : index < items.length := by rwa [h.length]
        rw [List.getElem?_eq_getElem hItem]
        change (Cursor.mk r (index + 1)).skip reads = _
        rw [ih (index + 1) hMore, Nat.add_assoc, Nat.add_comm 1 reads]
      · have hBeyond : items.length ≤ index := by rw [h.length, hEnd]
        rw [List.getElem?_eq_none hBeyond]
        change Cursor.mk r index = _
        rw [Nat.min_eq_right (by omega), hEnd]

/-- Reading never goes beyond the last item. -/
theorem Holds.skip (h : r.Holds items) (reads : Nat) :
    r.cursor.skip reads = ⟨r, min reads r.size⟩ := by
  have hSkip := h.skip_cursor reads 0 (Nat.zero_le _)
  rwa [Nat.zero_add] at hSkip

/-- After some reads, the bounds of what is left are exact, and what is left is read next. -/
theorem Holds.rest (h : r.Holds items) (reads : Nat) :
    (∀ count, (r.cursor.skip reads).take count = (items.drop reads).take count) ∧
    (r.cursor.skip reads).sizeHint =
      ((items.drop reads).length, some (items.drop reads).length) := by
  have hDrop : items.drop (min reads r.size) = items.drop reads := by
    rw [← h.length]
    by_cases hReads : reads ≤ items.length
    · rw [Nat.min_eq_left hReads]
    · rw [Nat.min_eq_right (by omega), List.drop_length, List.drop_eq_nil_of_le (by omega)]
  have hLeft : (r.cursor.skip reads).remaining = (items.drop reads).length := by
    rw [h.skip, Cursor.remaining, ← hDrop, List.length_drop, h.length]
  refine ⟨?_, by rw [Cursor.sizeHint, hLeft]⟩
  intro count
  rw [h.skip, h.take_cursor, hDrop]

theorem beq_iff_forall₂ [BEq α] (xs ys : List α) :
    (xs == ys) = true ↔ List.Forall₂ (fun x y => (x == y) = true) xs ys := by
  induction xs generalizing ys with
  | nil => cases ys <;> simp
  | cons x xs ih => cases ys <;> simp [ih]

/-- Rings compare as their items do, one by one. -/
theorem Holds.beq_iff [BEq α] (h : r.Holds items) {other : Ring α n} {others : List α}
    (hOther : other.Holds others) :
    (r == other) = true ↔ List.Forall₂ (fun x y => (x == y) = true) items others := by
  change (r.size == other.size && r.toList == other.toList) = true ↔ _
  rw [h.toList, hOther.toList, ← h.length, ← hOther.length, Bool.and_eq_true, beq_iff_eq,
    beq_iff_forall₂]
  exact and_iff_right_of_imp List.Forall₂.length_eq

end

/-- Rings are the last `n` pushes. After any pushes and clears, the items of a ring with `n` slots
are the last of those pushed since it was cleared, `n` or all of them if there are fewer, oldest
first. Size, emptiness, fullness, last item and every position agree with that list; after any
number of reads the bounds of what is left to read are exact, and reading goes on with it; and rings
are equal if and only if their lists are, item by item. -/
theorem changed_ring_eq_recent (pos : 0 < n) (changes : List (Change α)) :
    let r := (empty pos : Ring α n).after changes
    let pushed := pushedSinceClear changes
    let items := pushed.rtake n
    items.length = min n pushed.length ∧
    r.toList = items ∧
    r.size = items.length ∧
    r.isEmpty = items.isEmpty ∧
    r.isFull = decide (items.length = n) ∧
    r.last? = items.getLast? ∧
    (∀ index, r.get? index = items[index]?) ∧
    (∀ reads,
      (∀ count, (r.cursor.skip reads).take count = (items.drop reads).take count) ∧
      (r.cursor.skip reads).sizeHint =
        ((items.drop reads).length, some (items.drop reads).length)) ∧
    ∀ [BEq α] (others : List (Change α)),
      (r == (empty pos).after others) = true ↔
        List.Forall₂ (fun x y => (x == y) = true) items ((pushedSinceClear others).rtake n) := by
  intro r pushed items
  have h : r.Holds items := holds_after pos changes
  have hCount : items.length = min n pushed.length := by
    simp only [items, List.rtake, List.length_drop]
    omega
  refine ⟨hCount, h.toList, h.length.symm, h.isEmpty_eq, ?_, h.last?_eq, h.get?_eq, h.rest, ?_⟩
  · rw [isFull, h.length]
    rfl
  · intro _ others
    exact h.beq_iff (holds_after pos others)

/-- Three slots that are cleared while there is room and then filled beyond the last one. -/
def refilled : List (Change Nat) :=
  [.push 1, .push 2, .clear, .push 3, .push 4, .push 5, .push 6]

/-- The refilled ring shows its last three items, and equals one in which these stand elsewhere. -/
theorem refilled_ring_eq_recent :
    let r := (empty (by decide) : Ring Nat 3).after refilled
    0 < 3 ∧ r.toList = [4, 5, 6] ∧ r.last? = some 6 ∧ (r.cursor.skip 2).sizeHint = (1, some 1) ∧
    (r == (empty (by decide)).after [.push 4, .push 5, .push 6]) = true := by
  intro r
  obtain ⟨-, hItems, -, -, -, hLast, -, hRest, hEqual⟩ :=
    changed_ring_eq_recent (by decide : 0 < 3) refilled
  refine ⟨by decide, hItems, hLast, (hRest 2).2, (hEqual _).mpr ?_⟩
  exact .cons rfl (.cons rfl (.cons rfl .nil))

end Soaring.Ring
