import Mathlib.Data.List.DropRight
import Soaring.Store.Ring

/-!
Rings against the lists of their items. A ring is well formed when its slots hold what it counts, in
the order in which positions are mapped to slots. Every ring made by pushes is, and its items are
then those pushed last.
-/
namespace Soaring.Ring

variable {α : Type} {n : Nat}

def slot (r : Ring α n) (j : Fin n) : Option α := r.slots[j]

/-- The ring holds these items, oldest first. Until it is full, they stand from the first slot
on. -/
structure Holds (r : Ring α n) (items : List α) : Prop where
  length : items.length = r.size
  next : r.size < n → r.next.val = r.size
  item : ∀ k, k < r.size → r.get? k = items[k]?

/-- Positions count from the oldest item, wherever its slot is. -/
theorem Holds.get?_eq {r : Ring α n} {items : List α} (h : r.Holds items) (index : Nat) :
    r.get? index = items[index]? := by
  by_cases hIndex : index < r.size
  · exact h.item index hIndex
  · have hBeyond : r.size ≤ index := Nat.le_of_not_lt hIndex
    rw [get?, if_pos hBeyond, List.getElem?_eq_none (by rw [h.length]; exact hBeyond)]

theorem holds_empty (pos : 0 < n) : (empty pos : Ring α n).Holds [] := by
  refine ⟨rfl, fun _ => rfl, ?_⟩
  intro k hk
  exact absurd hk (Nat.not_lt_zero k)

/-- A push changes the slot that is next and no other. -/
theorem slot_push (r : Ring α n) (item : α) (j : Fin n) :
    (r.push item).slot j = if j = r.next then some item else r.slot j := by
  unfold slot
  by_cases h : j = r.next
  · subst h
    simp [push]
  · have hVal : r.next.val ≠ j.val := fun hSame => h (Fin.ext hSame.symm)
    simp [push, h, Vector.getElem_set_ne, hVal]

/-- Before the ring is full, positions are slots. -/
theorem get?_of_room (r : Ring α n) {k : Nat} (hk : k < r.size) (hRoom : r.size < n) :
    r.get? k = r.slot ⟨k, Nat.lt_trans hk hRoom⟩ := by
  have hSlot : r.slotAfter k = ⟨k, Nat.lt_trans hk hRoom⟩ :=
    Fin.ext (Nat.mod_eq_of_lt (Nat.lt_trans hk hRoom))
  simp only [get?, if_neg (Nat.not_le.mpr hk), if_pos hRoom, hSlot, slot]

/-- In a full ring, positions are counted from the slot that is next. -/
theorem get?_of_full (r : Ring α n) {k : Nat} (hk : k < n) (hFull : r.size = n) :
    r.get? k = r.slot (r.slotAfter (r.next.val + k)) := by
  have hPos : ¬ r.size ≤ k := by omega
  have hRoom : ¬ r.size < n := by omega
  simp only [get?, if_neg hPos, if_neg hRoom, slot]

/-- A ring with room takes an item as the last one. -/
theorem Holds.push_of_room {r : Ring α n} {items : List α} (h : r.Holds items)
    (hRoom : r.size < n) (item : α) : (r.push item).Holds (items ++ [item]) := by
  have hNext := h.next hRoom
  have hSize : (r.push item).size = r.size + 1 := Nat.min_eq_left hRoom
  have hSlot : ∀ k, (hk : k < r.size + 1) →
      (r.push item).get? k = (r.push item).slot ⟨k, by omega⟩ := by
    intro k hk
    by_cases hFull : r.size + 1 = n
    -- The last room is taken: positions are now counted from the next slot, which is the first.
    · rw [get?_of_full _ (by omega) (by omega)]
      have hWrap : (r.push item).slotAfter ((r.push item).next.val + k) = ⟨k, by omega⟩ := by
        apply Fin.ext
        have hStart : (r.push item).next.val = 0 := by
          change (r.next.val + 1) % n = 0
          rw [hNext, hFull, Nat.mod_self]
        change ((r.push item).next.val + k) % n = k
        rw [hStart, Nat.zero_add, Nat.mod_eq_of_lt (by omega)]
      rw [hWrap]
    · exact get?_of_room _ (by omega) (by omega)
  refine ⟨by simp [hSize, h.length], ?_, ?_⟩
  · intro hStill
    change (r.next.val + 1) % n = _
    rw [hNext, hSize, Nat.mod_eq_of_lt (by omega)]
  · intro k hk
    rw [hSize] at hk
    rw [hSlot k hk, slot_push]
    by_cases hLast : k = r.size
    · have hHere : (⟨k, by omega⟩ : Fin n) = r.next := Fin.ext (hLast.trans hNext.symm)
      rw [if_pos hHere, hLast, ← h.length]
      simp
    · have hOther : (⟨k, by omega⟩ : Fin n) ≠ r.next := by
        intro hSame
        have hVal := congrArg Fin.val hSame
        rw [hNext] at hVal
        exact hLast hVal
      rw [if_neg hOther, ← get?_of_room r (by omega) hRoom, h.get?_eq k,
        List.getElem?_append_left (by rw [h.length]; omega)]

/-- A full ring gives up its oldest item for a new one. -/
theorem Holds.push_of_full {r : Ring α n} {items : List α} (h : r.Holds items)
    (hFull : r.size = n) (item : α) : (r.push item).Holds (items.tail ++ [item]) := by
  have hPos := r.pos
  have hSize : (r.push item).size = n := by
    change min (r.size + 1) n = n
    omega
  have hItems : items.length = n := h.length.trans hFull
  refine ⟨by simp [hSize, hItems]; omega, fun hRoom => absurd hSize (by omega), ?_⟩
  intro k hk
  rw [hSize] at hk
  rw [get?_of_full _ hk hSize, slot_push]
  have hIndex : ((r.push item).slotAfter ((r.push item).next.val + k)).val =
      (r.next.val + (k + 1)) % n := by
    change ((r.next.val + 1) % n + k) % n = _
    rw [Nat.mod_add_mod, Nat.add_assoc, Nat.add_comm 1 k]
  have hNext := r.next.isLt
  by_cases hLast : k = n - 1
  · have hHere : (r.push item).slotAfter ((r.push item).next.val + k) = r.next := by
      apply Fin.ext
      rw [hIndex, show r.next.val + (k + 1) = r.next.val + n by omega, Nat.add_mod_right,
        Nat.mod_eq_of_lt hNext]
    rw [if_pos hHere, List.getElem?_append_right (by simp; omega)]
    simp [hItems, hLast]
  · have hOther : (r.push item).slotAfter ((r.push item).next.val + k) ≠ r.next := by
      intro hSame
      have hVal := hIndex.symm.trans (congrArg Fin.val hSame)
      by_cases hWrap : r.next.val + (k + 1) < n
      · rw [Nat.mod_eq_of_lt hWrap] at hVal
        omega
      · rw [Nat.mod_eq_sub_mod (by omega), Nat.mod_eq_of_lt (by omega)] at hVal
        omega
    have hOld : (r.push item).slotAfter ((r.push item).next.val + k) =
        r.slotAfter (r.next.val + (k + 1)) := Fin.ext hIndex
    rw [if_neg hOther, hOld, ← get?_of_full r (by omega) hFull, h.get?_eq (k + 1),
      List.getElem?_append_left (by simp; omega), List.getElem?_tail]

/-- From any position on, reading gives the items that stand there, and then no more. -/
theorem Holds.take_cursor {r : Ring α n} {items : List α} (h : r.Holds items) (count index : Nat) :
    (Cursor.mk r index).take count = (items.drop index).take count := by
  induction count generalizing index with
  | zero => rfl
  | succ count ih =>
      cases hItem : items[index]? with
      | none =>
          have hEnd : items.drop index = [] :=
            List.drop_eq_nil_of_le (List.getElem?_eq_none_iff.mp hItem)
          simp [Cursor.take, Cursor.next?, h.get?_eq, hItem, hEnd]
      | some item =>
          obtain ⟨hIndex, hHere⟩ := List.getElem?_eq_some_iff.mp hItem
          rw [List.drop_eq_getElem_cons hIndex, hHere, List.take_succ_cons, ← ih (index + 1)]
          simp [Cursor.take, Cursor.next?, h.get?_eq, hItem]

theorem Holds.toList {r : Ring α n} {items : List α} (h : r.Holds items) : r.toList = items :=
  (h.take_cursor r.size 0).trans (List.take_of_length_le (Nat.le_of_eq h.length))

/-- The ring was made by pushes, as far as its items can tell. -/
def WellFormed (r : Ring α n) : Prop := r.Holds r.toList

theorem Holds.wellFormed {r : Ring α n} {items : List α} (h : r.Holds items) : r.WellFormed := by
  unfold WellFormed
  rwa [h.toList]

theorem wellFormed_empty (pos : 0 < n) : (empty pos : Ring α n).WellFormed :=
  (holds_empty pos).wellFormed

theorem toList_empty (pos : 0 < n) : (empty pos : Ring α n).toList = [] :=
  (holds_empty pos).toList

/-- A push puts its item behind the others, of which a full ring first loses the oldest. -/
theorem WellFormed.holds_push {r : Ring α n} (h : r.WellFormed) (item : α) :
    (r.push item).Holds
      ((if r.toList.length < n then r.toList else r.toList.tail) ++ [item]) := by
  have hLength : r.toList.length = r.size := Holds.length h
  have hSize := r.size_le
  by_cases hRoom : r.toList.length < n
  · rw [if_pos hRoom]
    exact Holds.push_of_room h (hLength ▸ hRoom) item
  · rw [if_neg hRoom]
    exact Holds.push_of_full h (by omega) item

/-- A ring that holds the last of some items, as many as it has slots, still does so with one item
more. -/
theorem WellFormed.toList_push_rtake {r : Ring α n} (h : r.WellFormed) {items : List α}
    (hItems : r.toList = items.rtake n) (item : α) :
    (r.push item).toList = (items ++ [item]).rtake n := by
  have hPos := r.pos
  have hKept : (if r.toList.length < n then r.toList else r.toList.tail) =
      items.rtake (n - 1) := by
    unfold List.rtake at hItems ⊢
    have hLength : r.toList.length = items.length - (items.length - n) := by
      rw [hItems, List.length_drop]
    split
    · next hRoom =>
        rw [hItems, show items.length - n = items.length - (n - 1) by omega]
    · next hFull =>
        rw [hItems, List.tail_drop, show items.length - n + 1 = items.length - (n - 1) by omega]
  rw [(h.holds_push item).toList, hKept, ← List.rtake_concat_succ, Nat.sub_add_cancel hPos]

section

variable {β : Type}

/-- Changes every item where it stands. -/
def map (f : α → β) (r : Ring α n) : Ring β n :=
  { slots := r.slots.map (Option.map f)
    next := r.next
    size := r.size
    size_le := r.size_le }

theorem map_empty (f : α → β) (pos : 0 < n) : (empty pos : Ring α n).map f = empty pos := by
  simp [map, empty]

/-- Pushing and changing every item may change places. -/
theorem map_push (f : α → β) (r : Ring α n) (item : α) :
    (r.push item).map f = (r.map f).push (f item) := by
  simp [map, push, slotAfter, Vector.map_set]

theorem get?_map (f : α → β) (r : Ring α n) (index : Nat) :
    (r.map f).get? index = (r.get? index).map f := by
  unfold get?
  change (if r.size ≤ index then none else if r.size < n then _ else _) = _
  split
  · rfl
  · split <;> simp [map, slotAfter]

/-- The view of a changed ring is the changed view. -/
theorem toList_map (f : α → β) (r : Ring α n) : (r.map f).toList = r.toList.map f := by
  have hTake : ∀ count index, (Cursor.mk (r.map f) index).take count =
      ((Cursor.mk r index).take count).map f := by
    intro count
    induction count with
    | zero => exact fun _ => rfl
    | succ count ih =>
        intro index
        have hItem := get?_map f r index
        cases hOld : r.get? index with
        | none => simp [Cursor.take, Cursor.next?, hItem, hOld]
        | some item => simp [Cursor.take, Cursor.next?, hItem, hOld, ih]
  exact hTake r.size 0

end

end Soaring.Ring
