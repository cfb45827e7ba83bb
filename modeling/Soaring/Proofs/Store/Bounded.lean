import Mathlib.Data.List.Induction
import Mathlib.Data.List.Nodup
import Soaring.Store.Bounded

/-!
Bounded stores as maps. An insertion says of every key what is found under it afterwards, and either
leaves the keys as they stand or adds one behind them. So a store made by insertions shows what was
taken in: the keys in the order in which they came first, and under each the record that came last.
-/
namespace Soaring.Bounded

variable {α κ : Type} {capacity : Nat} [Keyed α κ] [DecidableEq κ]

def keys (s : Bounded α capacity) : List κ := s.items.map Keyed.key

theorem isSome_find?_iff (s : Bounded α capacity) (key : κ) :
    (s.find? key).isSome = true ↔ key ∈ s.keys := by
  simp [find?, keys]

/-- A replacement keeps the keys and their order. -/
theorem map_key_replaceFirst (item : α) (items : List α) :
    (replaceFirst item items).map Keyed.key = (items.map Keyed.key : List κ) := by
  induction items with
  | nil => rfl
  | cons other rest ih =>
      by_cases hSame : Keyed.key other = (Keyed.key item : κ) <;>
        simp [replaceFirst, hSame, ih]

/-- A replaced record is found under its own key, and nothing changes under the others. -/
theorem find?_replaceFirst (item : α) (items : List α) (key : κ)
    (hStored : (Keyed.key item : κ) ∈ items.map Keyed.key) :
    (replaceFirst item items).find? (fun other => Keyed.key other = key) =
      if Keyed.key item = key then some item
      else items.find? fun other => Keyed.key other = key := by
  induction items with
  | nil => cases hStored
  | cons other rest ih =>
      by_cases hSame : Keyed.key other = (Keyed.key item : κ)
      · by_cases hKey : (Keyed.key item : κ) = key <;>
          simp [replaceFirst, hSame, hKey]
      · have hRest : (Keyed.key item : κ) ∈ rest.map Keyed.key := by
          rcases List.mem_cons.mp hStored with hHere | hRest
          · exact absurd hHere.symm hSame
          · exact hRest
        by_cases hKey : Keyed.key other = key
        · have hOther : (Keyed.key item : κ) ≠ key := fun hItem => hSame (hKey.trans hItem.symm)
          rw [replaceFirst, if_neg hSame, if_neg hOther]
          simp [hKey]
        · simp [replaceFirst, hSame, hKey, ih hRest]

section

variable {s filled : Bounded α capacity} {item : α}

/-- All that an insertion can come to: the record replaces the one with its key, or it goes behind
the others, or there is no room for it. -/
theorem insert_cases (s : Bounded α capacity) (item : α) :
    ((Keyed.key item : κ) ∈ s.keys ∧
      ∃ filled, s.insert item = .ok filled ∧ filled.items = replaceFirst item s.items) ∨
    ((Keyed.key item : κ) ∉ s.keys ∧ s.size < capacity ∧
      ∃ filled, s.insert item = .ok filled ∧ filled.items = s.items ++ [item]) ∨
    ((Keyed.key item : κ) ∉ s.keys ∧ s.size = capacity ∧
      s.insert item = .error (.capacityExceeded capacity)) := by
  unfold insert
  rw [← isSome_find?_iff]
  by_cases hStored : (s.find? (Keyed.key item)).isSome = true
  · exact .inl ⟨hStored, _, if_pos hStored, rfl⟩
  · rw [if_neg hStored]
    by_cases hRoom : s.items.length < capacity
    · exact .inr (.inl ⟨hStored, hRoom, _, dif_pos hRoom, rfl⟩)
    · have hFull : s.size = capacity := Nat.le_antisymm s.length_le (Nat.le_of_not_lt hRoom)
      exact .inr (.inr ⟨hStored, hFull, dif_neg hRoom⟩)

/-- An insertion adds a new key behind the others and leaves the keys alone if it is not new. -/
theorem keys_insert (h : s.insert item = .ok filled) :
    filled.keys = if (Keyed.key item : κ) ∈ s.keys then s.keys else s.keys ++ [Keyed.key item] := by
  rcases insert_cases s item with
    ⟨hStored, other, hOk, hItems⟩ | ⟨hNew, -, other, hOk, hItems⟩ | ⟨-, -, hError⟩
  · obtain rfl : other = filled := Except.ok.inj (hOk.symm.trans h)
    rw [if_pos hStored, keys, hItems, map_key_replaceFirst]
    rfl
  · obtain rfl : other = filled := Except.ok.inj (hOk.symm.trans h)
    rw [if_neg hNew, keys, hItems, List.map_append]
    rfl
  · rw [hError] at h
    cases h

/-- After an insertion its record is found under its key, and all else is found as before. -/
theorem find?_insert (h : s.insert item = .ok filled) (key : κ) :
    filled.find? key = if Keyed.key item = key then some item else s.find? key := by
  rcases insert_cases s item with
    ⟨hStored, other, hOk, hItems⟩ | ⟨hNew, -, other, hOk, hItems⟩ | ⟨-, -, hError⟩
  · obtain rfl : other = filled := Except.ok.inj (hOk.symm.trans h)
    rw [find?, hItems, find?_replaceFirst item s.items key hStored]
    rfl
  · obtain rfl : other = filled := Except.ok.inj (hOk.symm.trans h)
    rw [find?, hItems, List.find?_append]
    by_cases hKey : Keyed.key item = key
    · have hNone : s.find? key = none := by
        rw [← Option.not_isSome_iff_eq_none, isSome_find?_iff, ← hKey]
        exact hNew
      rw [find?] at hNone
      simp [hNone, hKey]
    · simp [hKey, find?]
  · rw [hError] at h
    cases h

end

/-- Those of the offered records that a store takes, in order. -/
def taken (s : Bounded α capacity) : List α → List α
  | [] => []
  | item :: rest =>
    let (after, result) := s.offer item
    if result.isOk then item :: after.taken rest else after.taken rest

/-- Of more records, those are taken that the store takes as it is by then. -/
theorem taken_append (s : Bounded α capacity) (offered more : List α) :
    s.taken (offered ++ more) = s.taken offered ++ (s.offerAll offered).taken more := by
  induction offered generalizing s with
  | nil => rfl
  | cons item rest ih =>
      have hRest := ih (s.offer item).1
      change s.taken (item :: (rest ++ more)) =
        s.taken (item :: rest) ++ ((s.offer item).1.offerAll rest).taken more
      by_cases hOk : (s.offer item).2.isOk = true <;> simp [taken, hOk, hRest]

/-- The store shows these records as a map: their keys in the order in which they came first, and
under each key the record that came last. -/
structure Shows (s : Bounded α capacity) (records : List α) : Prop where
  distinct : s.keys.Nodup
  ordered : s.keys = (records.map Keyed.key).eraseDups
  latest : ∀ key, s.find? key = records.findRev? fun item => Keyed.key item = key

theorem shows_empty : (empty : Bounded α capacity).Shows [] :=
  ⟨List.nodup_nil, rfl, fun _ => rfl⟩

/-- A record that is taken becomes the last one with its key. -/
theorem Shows.insert {s filled : Bounded α capacity} {records : List α} {item : α}
    (h : s.Shows records) (hInsert : s.insert item = .ok filled) :
    filled.Shows (records ++ [item]) := by
  have hKnown : (Keyed.key item : κ) ∈ s.keys ↔ Keyed.key item ∈ records.map Keyed.key := by
    rw [h.ordered, List.mem_eraseDups]
  refine ⟨?_, ?_, ?_⟩
  · rw [keys_insert hInsert]
    split
    · exact h.distinct
    · next hNew => exact h.distinct.append (List.nodup_singleton _) (by simpa using hNew)
  · rw [keys_insert hInsert, List.map_append, List.eraseDups_append, ← h.ordered]
    by_cases hOld : (Keyed.key item : κ) ∈ s.keys
    · have hGone : ([item].map Keyed.key).removeAll (records.map Keyed.key) = ([] : List κ) := by
        simpa [List.removeAll] using hKnown.mp hOld
      rw [if_pos hOld, hGone, List.eraseDups_nil, List.append_nil]
    · have hLeft : ([item].map Keyed.key).removeAll (records.map Keyed.key) =
          ([Keyed.key item] : List κ) := by
        simpa [List.removeAll] using mt hKnown.mpr hOld
      rw [if_neg hOld, hLeft]
      rfl
  · intro key
    rw [find?_insert hInsert, h.latest, List.findRev?_eq_find?_reverse,
      List.findRev?_eq_find?_reverse, List.reverse_append]
    by_cases hKey : Keyed.key item = key <;> simp [hKey]

/-- However many records are offered, the store shows those that it took. By induction from the end,
as a later record may replace an earlier one. -/
theorem shows_offerAll (offered : List α) :
    ((empty : Bounded α capacity).offerAll offered).Shows
      ((empty : Bounded α capacity).taken offered) := by
  induction offered using List.reverseRecOn with
  | nil => exact shows_empty
  | append_singleton offered item ih =>
      rw [taken_append, offerAll, List.foldl_append]
      change ((offerAll empty offered).offer item).1.Shows _
      cases hInsert : (offerAll empty offered : Bounded α capacity).insert item with
      | ok filled =>
          simpa [taken, offer, hInsert, Except.isOk, Except.toBool] using ih.insert hInsert
      | error error => simpa [taken, offer, hInsert, Except.isOk, Except.toBool] using ih

/-- Traffic and waypoints, as all stores of this kind, are bounded maps. Of the records offered to a
store that was empty at first, those that it took are shown: their keys are distinct and stand in
the order in which they came first, and under each key the record taken last is found, or none. A
record is refused if and only if its key is new and the store is full, so that a known key can be
replaced in a full store as well, and a refusal leaves the store as it is. -/
theorem offered_store_eq_map (offered : List α) :
    let s : Bounded α capacity := empty.offerAll offered
    let records := (empty : Bounded α capacity).taken offered
    s.keys.Nodup ∧
    s.keys = (records.map Keyed.key).eraseDups ∧
    (∀ key, s.find? key = records.findRev? fun item => Keyed.key item = key) ∧
    ∀ item,
      ((s.offer item).2 = .error (.capacityExceeded capacity) ↔
        (Keyed.key item : κ) ∉ s.keys ∧ s.size = capacity) ∧
      ((Keyed.key item : κ) ∈ s.keys → (s.offer item).2 = .ok ()) ∧
      ((s.offer item).2 ≠ .ok () →
        (s.offer item).2 = .error (.capacityExceeded capacity) ∧ (s.offer item).1 = s) := by
  intro s records
  have h : s.Shows records := shows_offerAll offered
  refine ⟨h.distinct, h.ordered, h.latest, ?_⟩
  intro item
  rcases insert_cases s item with
    ⟨hStored, filled, hOk, -⟩ | ⟨hNew, hRoom, filled, hOk, -⟩ | ⟨hNew, hFull, hError⟩
  · simp [offer, hOk, hStored]
  · have hNotFull : s.size ≠ capacity := Nat.ne_of_lt hRoom
    simp [offer, hOk, hNotFull]
  · simp [offer, hError, hNew, hFull]

end Soaring.Bounded
