import Soaring.Proofs.Record.Forms
import Soaring.Record.Kind

/-!
Every kind of record is read back from any of its forms.
-/
namespace Soaring.Record

/-- No record has two fields of one name, and no value that may be missing holds another one. -/
theorem Kind.isUnambiguous_layout (kind : Kind) : kind.layout.isUnambiguous = true := by
  cases kind <;> rfl

/-- Nothing of a record is lost in its JSON form. What is written is a form of the value, and every
form is read as the value: the keys of a record in any order, unknown ones among them where the
record is open, or the array of its fields, at any depth. A value in which a known key occurs twice
where a record is read is refused. Doubles are kept here as they are, infinities and NaN too,
although no text spells those. -/
theorem Kind.decode?_forms (kind : Kind) (value : kind.Value) :
    kind.layout.decode? (kind.layout.encode value) = some value ∧
    kind.layout.Form value (kind.layout.encode value) ∧
    (∀ json, kind.layout.Form value json → kind.layout.decode? json = some value) ∧
    ∀ json, kind.layout.Repeats json → kind.layout.decode? json = none := by
  have hRead : ∀ json, kind.layout.Form value json → kind.layout.decode? json = some value :=
    fun _ => kind.layout.decode?_of_form kind.isUnambiguous_layout
  have hWritten := kind.layout.form_encode value
  exact ⟨hRead _ hWritten, hWritten, hRead, fun _ => kind.layout.decode?_of_repeats⟩

/-- A date and time with its keys turned round, a key too many and the time as an array; and the
same with the mark given twice. -/
theorem dateTime_decode?_forms :
    let value : Kind.dateTime.Value := (⟨⟨2024, 3, 1⟩, ⟨2, 0, 0⟩, true⟩ : Calendar.DateTime)
    let date := Json.object
      [(some "day", .integer 1), (some "month", .integer 3), (some "year", .integer 2024)]
    let time := Json.array [.integer 2, .integer 0, .integer 0]
    Kind.dateTime.layout.decode? (.object
      [(some "zone", .null), (some "valid", .bool true), (some "time", time),
        (some "date", date)]) = some value ∧
    Kind.dateTime.layout.decode? (.object
      [(some "valid", .bool true), (some "time", time), (some "date", date),
        (some "valid", .bool true)]) = none := by
  intro value date time
  obtain ⟨-, -, hForms, hRepeats⟩ := Kind.decode?_forms .dateTime value
  refine ⟨hForms _ ?_, hRepeats _ ?_⟩
  · have hDate : Layout.date.Form ⟨2024, 3, 1⟩ date :=
      ⟨[.integer 2024, .integer 3, .integer 1],
        ⟨_, _, rfl, rfl, _, _, rfl, rfl, _, _, rfl, rfl, rfl⟩,
        .inr ⟨_, [], rfl, List.reverse_perm [_, _, _], by simp⟩⟩
    have hTime : Layout.timeOfDay.Form ⟨2, 0, 0⟩ time :=
      ⟨_, ⟨_, _, rfl, rfl, _, _, rfl, rfl, _, _, rfl, rfl, rfl⟩, .inl rfl⟩
    refine ⟨[date, time, .bool true],
      ⟨_, _, rfl, hDate, _, _, rfl, hTime, _, _, rfl, rfl, rfl⟩,
      .inr ⟨_, [(some "zone", .null)], rfl, List.reverse_perm [_, _, _, _], ?_⟩⟩
    intro member hMember
    obtain rfl := List.mem_singleton.mp hMember
    exact ⟨rfl, _, rfl, by decide⟩
  · exact .inr ⟨_, rfl, .inl ⟨"valid", by decide, by decide⟩⟩

end Soaring.Record
