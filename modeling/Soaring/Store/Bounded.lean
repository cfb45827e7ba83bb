import Soaring.Error

/-!
Bounded stores of records with a key, searched in order. A record replaces an earlier one with its
key in place; a new key needs room.
-/
namespace Soaring

/-- Records that are told apart by a key. -/
class Keyed (α : Type) (κ : outParam Type) where
  key : α → κ

/-- At most `capacity` records, in the order in which their keys came in. -/
structure Bounded (α : Type) (capacity : Nat) where
  items : List α
  length_le : items.length ≤ capacity

namespace Bounded

variable {α κ : Type} {capacity : Nat} [Keyed α κ] [DecidableEq κ]

def empty : Bounded α capacity := ⟨[], Nat.zero_le capacity⟩

instance : Inhabited (Bounded α capacity) := ⟨empty⟩

instance [BEq α] : BEq (Bounded α capacity) where
  beq a b := a.items == b.items

def size (s : Bounded α capacity) : Nat := s.items.length

def isEmpty (s : Bounded α capacity) : Bool := s.items.isEmpty

def find? (s : Bounded α capacity) (key : κ) : Option α :=
  s.items.find? fun item => Keyed.key item = key

/-- Puts a record in the place of the first one with its key. A list without one is unchanged. -/
def replaceFirst (item : α) : List α → List α
  | [] => []
  | other :: rest =>
    if Keyed.key other = Keyed.key item then item :: rest else other :: replaceFirst item rest

theorem length_replaceFirst (item : α) (items : List α) :
    (replaceFirst item items).length = items.length := by
  induction items with
  | nil => rfl
  | cons other rest ih =>
    by_cases h : Keyed.key other = Keyed.key item <;> simp [replaceFirst, h, ih]

/-- Adds a record, or replaces the one with its key. Only a new key can find the store full. -/
def insert (s : Bounded α capacity) (item : α) : Except Error (Bounded α capacity) :=
  if (s.find? (Keyed.key item)).isSome then
    .ok ⟨replaceFirst item s.items, length_replaceFirst item s.items ▸ s.length_le⟩
  else if room : s.items.length < capacity then
    .ok ⟨s.items ++ [item], by simpa using Nat.succ_le_of_lt room⟩
  else .error (.capacityExceeded capacity)

/-- Tries to insert a record. A store that refuses it stays as it is. -/
def offer (s : Bounded α capacity) (item : α) : Bounded α capacity × Except Error Unit :=
  match s.insert item with
  | .ok filled => (filled, .ok ())
  | .error error => (s, .error error)

/-- Offers records in turn, whatever becomes of each. -/
def offerAll (s : Bounded α capacity) (items : List α) : Bounded α capacity :=
  items.foldl (fun s item => (s.offer item).1) s

end Bounded

end Soaring
