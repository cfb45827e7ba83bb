import Mathlib.Data.List.Forall2
import Mathlib.Data.List.Perm.Basic
import Soaring.Record.Layout

/-!
The JSON forms of a value. A record may be written as an object in any order of its keys, with keys
that it does not know if it is open, or as an array of its fields; this holds of each record inside
too. Reading undoes every form. What no form has is a known key that occurs twice, and reading
refuses it wherever a record is expected.
-/
namespace Soaring.Record

def membersOf (names : List String) (items : List Json) : List (Option String × Json) :=
  List.zipWith (fun name json => (some name, json)) names items

mutual

/-- The JSON value is a form of the value. -/
def Layout.Form : {α : Type} → Layout α → α → Json → Prop
  | _, .boolean, value, json => json = .bool value
  | _, .float, value, json => json = .number value
  | _, .natural, value, json => json = .integer value
  | _, .integer, value, json => json = .integer value
  | _, .text, value, json => json = .text value
  | _, .event, value, json => json = .text value.name
  | _, .optional _, none, json => json = .null
  | _, .optional inner, some value, json => inner.Form value json
  | _, .list inner, values, json =>
    ∃ items, json = .array items ∧ List.Forall₂ inner.Form values items
  | _, .fields isClosed fields, values, json =>
    ∃ items, fields.Forms values items ∧
      (json = .array items ∨
        ∃ members unknown, json = .object members ∧
          members.Perm (membersOf fields.names items ++ unknown) ∧
          ∀ member ∈ unknown, isClosed = false ∧
            ∃ key, member.1 = some key ∧ key ∉ fields.names)
  | _, .refined inner _ write _, value, json => inner.Form (write value) json

/-- The JSON values are forms of the fields, in order. -/
def Fields.Forms : {τ : Type} → Fields τ → τ → List Json → Prop
  | _, .nil, _, items => items = []
  | _, .cons _ layout rest, (value, values), items =>
    ∃ json others, items = json :: others ∧ layout.Form value json ∧ rest.Forms values others

end

mutual

/-- Where a record is read a known key occurs twice. -/
def Layout.Repeats : {α : Type} → Layout α → Json → Prop
  | _, .optional inner, json => inner.Repeats json
  | _, .list inner, json => ∃ items, json = .array items ∧ ∃ item ∈ items, inner.Repeats item
  | _, .fields _ fields, json =>
    (∃ items, json = .array items ∧ fields.RepeatInItems items) ∨
      ∃ members, json = .object members ∧
        ((∃ name ∈ fields.names, 2 ≤ (members.map Prod.fst).count (some name)) ∨
          fields.RepeatInMembers members)
  | _, .refined inner _ _ _, json => inner.Repeats json
  | _, .boolean, _ => False
  | _, .float, _ => False
  | _, .natural, _ => False
  | _, .integer, _ => False
  | _, .text, _ => False
  | _, .event, _ => False

/-- The same inside a field of a record written as an array. -/
def Fields.RepeatInItems : {τ : Type} → Fields τ → List Json → Prop
  | _, .cons _ layout rest, json :: items => layout.Repeats json ∨ rest.RepeatInItems items
  | _, .cons _ _ _, [] => False
  | _, .nil, _ => False

/-- The same inside a field of a record written as an object. -/
def Fields.RepeatInMembers : {τ : Type} → Fields τ → List (Option String × Json) → Prop
  | _, .cons name layout rest, members =>
    (∃ json, (some name, json) ∈ members ∧ layout.Repeats json) ∨ rest.RepeatInMembers members
  | _, .nil, _ => False

end

/-- No form of a value is null. -/
def Layout.isNeverNull : {α : Type} → Layout α → Bool
  | _, .optional _ => false
  | _, .refined inner _ _ _ => inner.isNeverNull
  | _, _ => true

mutual

/-- Each value has forms of its own: null stands for nothing else, and no two fields of a record
share a name. -/
def Layout.isUnambiguous : {α : Type} → Layout α → Bool
  | _, .optional inner => inner.isNeverNull && inner.isUnambiguous
  | _, .list inner => inner.isUnambiguous
  | _, .fields _ fields => decide fields.names.Nodup && fields.areUnambiguous
  | _, .refined inner _ _ _ => inner.isUnambiguous
  | _, _ => true

def Fields.areUnambiguous : {τ : Type} → Fields τ → Bool
  | _, .nil => true
  | _, .cons _ layout rest => layout.isUnambiguous && rest.areUnambiguous

end

/-! Every value has a form, the one in which it is written. -/

theorem Fields.membersOf_encodeMembers : {τ : Type} → (fields : Fields τ) → (values : τ) →
    membersOf fields.names ((fields.encodeMembers values).map Prod.snd) =
      fields.encodeMembers values
  | _, .nil, _ => rfl
  | _, .cons name layout rest, (value, values) =>
    congrArg ((some name, layout.encode value) :: ·) (rest.membersOf_encodeMembers values)

mutual

/-- A value is written in one of its forms. -/
theorem Layout.form_encode : {α : Type} → (layout : Layout α) → (value : α) →
    layout.Form value (layout.encode value)
  | _, .boolean, _ => rfl
  | _, .float, _ => rfl
  | _, .natural, _ => rfl
  | _, .integer, _ => rfl
  | _, .text, _ => rfl
  | _, .event, _ => rfl
  | _, .optional _, none => rfl
  | _, .optional inner, some value => inner.form_encode value
  | _, .list inner, values => by
    have hItems : List.Forall₂ inner.Form values (values.map inner.encode) :=
      List.forall₂_map_right_iff.mpr (List.forall₂_same.mpr fun value _ => inner.form_encode value)
    exact ⟨_, rfl, hItems⟩
  | _, .fields _ fields, values =>
    ⟨_, fields.forms_encodeMembers values, .inr ⟨_, [], rfl, by
      rw [fields.membersOf_encodeMembers, List.append_nil], by simp⟩⟩
  | _, .refined inner _ write _, value => inner.form_encode (write value)

theorem Fields.forms_encodeMembers : {τ : Type} → (fields : Fields τ) → (values : τ) →
    fields.Forms values ((fields.encodeMembers values).map Prod.snd)
  | _, .nil, _ => rfl
  | _, .cons _ layout rest, (value, values) =>
    ⟨_, _, rfl, layout.form_encode value, rest.forms_encodeMembers values⟩

end

/-! Reading undoes every form. -/

theorem eventNamed?_name (event : Event) : eventNamed? event.name = some event := by
  cases event <;> rfl

/-- Null is a form of missing optional values only. -/
theorem Layout.ne_null_of_form : {α : Type} → (layout : Layout α) → layout.isNeverNull = true →
    {value : α} → {json : Json} → layout.Form value json → json ≠ .null
  | _, .boolean, _, _, _, rfl => Json.noConfusion
  | _, .float, _, _, _, rfl => Json.noConfusion
  | _, .natural, _, _, _, rfl => Json.noConfusion
  | _, .integer, _, _, _, rfl => Json.noConfusion
  | _, .text, _, _, _, rfl => Json.noConfusion
  | _, .event, _, _, _, rfl => Json.noConfusion
  | _, .list _, _, _, _, hForm => by
    obtain ⟨_, rfl, _⟩ := hForm
    exact Json.noConfusion
  | _, .fields _ _, _, _, _, hForm => by
    obtain ⟨_, _, rfl | ⟨_, _, rfl, _⟩⟩ := hForm <;> exact Json.noConfusion
  | _, .refined inner _ _ _, hNeverNull, _, _, hForm => inner.ne_null_of_form hNeverNull hForm

/-- Anything but null is read as the value inside. -/
theorem decode?_optional {α : Type} (inner : Layout α) {json : Json} (h : json ≠ .null) :
    (Layout.optional inner).decode? json = (inner.decode? json).map some := by
  cases json with
  | null => exact absurd rfl h
  | _ => rfl

theorem decodeItems?_cons {α τ : Type} (name : String) (layout : Layout α) (rest : Fields τ)
    (json : Json) (items : List Json) :
    (Fields.cons name layout rest).decodeItems? (json :: items) =
      (layout.decode? json).bind fun value =>
        (rest.decodeItems? items).bind fun values => some (value, values) := rfl

/-- The value of a field from those under its key. -/
def Layout.pick? {α : Type} (layout : Layout α) : List Json → Option α
  | [] => layout.missing?
  | [json] => layout.decode? json
  | _ => none

theorem decodeMembers?_cons {α τ : Type} (name : String) (layout : Layout α) (rest : Fields τ)
    (members : List (Option String × Json)) :
    (Fields.cons name layout rest).decodeMembers? members =
      (layout.pick? (valuesOf name members)).bind fun value =>
        (rest.decodeMembers? members).bind fun values => some (value, values) := by
  rw [Fields.decodeMembers?]
  generalize valuesOf name members = values
  match values with
  | [] | [_] | _ :: _ :: _ => rfl

theorem mapM_of_forall₂ {α β : Type} {form : α → β → Prop} {read? : β → Option α}
    {values : List α} {items : List β} (h : List.Forall₂ form values items)
    (hRead : ∀ value item, form value item → read? item = some value) :
    items.mapM read? = some values := by
  induction h with
  | nil => rfl
  | cons hHead _ ih => simp [hRead _ _ hHead, ih]

theorem valuesOf_cons (name : String) (member : Option String × Json)
    (members : List (Option String × Json)) :
    valuesOf name (member :: members) =
      if member.1 = some name then member.2 :: valuesOf name members
      else valuesOf name members := by
  by_cases h : member.1 = some name <;> simp [valuesOf, h]

/-- Members with other keys do not matter to a field. -/
theorem valuesOf_eq_nil {name : String} {members : List (Option String × Json)}
    (h : ∀ member ∈ members, ∃ key, member.1 = some key ∧ key ≠ name) :
    valuesOf name members = [] := by
  have hNone : ∀ member ∈ members, member.1 ≠ some name := by
    intro member hMember hName
    obtain ⟨key, hKey, hOther⟩ := h member hMember
    exact hOther (Option.some.inj (hKey.symm.trans hName))
  simpa [valuesOf, List.filter_eq_nil_iff] using hNone

theorem valuesOf_append (name : String) (members members' : List (Option String × Json)) :
    valuesOf name (members ++ members') = valuesOf name members ++ valuesOf name members' := by
  simp [valuesOf]

/-- Members in another order give a field its values in another order. -/
theorem valuesOf_perm (name : String) {members members' : List (Option String × Json)}
    (h : members.Perm members') : (valuesOf name members).Perm (valuesOf name members') :=
  (h.filter _).map _

theorem key_of_mem_membersOf {names : List String} {items : List Json}
    {member : Option String × Json} (h : member ∈ membersOf names items) :
    ∃ key ∈ names, member.1 = some key := by
  induction names generalizing items with
  | nil => cases h
  | cons name names ih =>
    cases items with
    | nil => cases h
    | cons json items =>
      rcases List.mem_cons.mp h with rfl | hRest
      · exact ⟨name, List.mem_cons_self .., rfl⟩
      · obtain ⟨key, hKey, hMember⟩ := ih hRest
        exact ⟨key, List.mem_cons_of_mem _ hKey, hMember⟩

/-- In a record with distinct field names each field has its own value alone. -/
theorem valuesOf_membersOf {names : List String} (hNames : names.Nodup) {items : List Json}
    {name : String} {json : Json} (h : (name, json) ∈ names.zip items) :
    valuesOf name (membersOf names items) = [json] := by
  induction names generalizing items with
  | nil => cases h
  | cons first names ih =>
    cases items with
    | nil => cases h
    | cons item items =>
      obtain ⟨hFirst, hRest⟩ := List.nodup_cons.mp hNames
      change valuesOf name ((some first, item) :: membersOf names items) = [json]
      rw [valuesOf_cons]
      rcases List.mem_cons.mp h with hHead | hTail
      · obtain ⟨rfl, rfl⟩ := Prod.mk.inj hHead
        have hNone : valuesOf name (membersOf names items) = [] := valuesOf_eq_nil fun _ hMember =>
          (key_of_mem_membersOf hMember).imp fun _ hKey =>
            ⟨hKey.2, fun hSame => hFirst (hSame ▸ hKey.1)⟩
        rw [if_pos rfl, hNone]
      · have hOther : first ≠ name := fun hSame => hFirst (hSame ▸ (List.of_mem_zip hTail).1)
        rw [if_neg (mt Option.some.inj hOther), ih hRest hTail]

/-- Among the members that spell a record each known key has its value alone. -/
theorem valuesOf_of_perm {names : List String} (hNames : names.Nodup) {items : List Json}
    {unknown members : List (Option String × Json)}
    (hPerm : members.Perm (membersOf names items ++ unknown))
    (hUnknown : ∀ member ∈ unknown, ∃ key, member.1 = some key ∧ key ∉ names)
    {name : String} {json : Json} (h : (name, json) ∈ names.zip items) :
    valuesOf name members = [json] := by
  have hOthers : valuesOf name unknown = [] := valuesOf_eq_nil fun member hMember =>
    (hUnknown member hMember).imp fun _ hKey =>
      ⟨hKey.1, fun hSame => hKey.2 (hSame ▸ (List.of_mem_zip h).1)⟩
  have hValues := valuesOf_perm name hPerm
  rw [valuesOf_append, valuesOf_membersOf hNames h, hOthers] at hValues
  exact List.perm_singleton.mp hValues

/-- The keys of a form are allowed: they are known, or the record is open. -/
theorem keysAllowed_of_perm {isClosed : Bool} {names : List String} {items : List Json}
    {unknown members : List (Option String × Json)}
    (hPerm : members.Perm (membersOf names items ++ unknown))
    (hUnknown : ∀ member ∈ unknown, isClosed = false ∧
      ∃ key, member.1 = some key ∧ key ∉ names) :
    keysAllowed isClosed names members = true := by
  refine List.all_eq_true.mpr fun member hMember => ?_
  rcases List.mem_append.mp (hPerm.mem_iff.mp hMember) with hKnown | hNew
  · obtain ⟨key, hKey, hEq⟩ := key_of_mem_membersOf hKnown
    simp [hEq, hKey]
  · obtain ⟨hOpen, key, hEq, -⟩ := hUnknown member hNew
    simp [hEq, hOpen]

mutual

/-- Reading undoes every form. By induction on the layout, together with its fields as an array and
as an object. -/
theorem Layout.decode?_of_form : {α : Type} → (layout : Layout α) →
    layout.isUnambiguous = true → {value : α} → {json : Json} → layout.Form value json →
    layout.decode? json = some value
  | _, .boolean, _, _, _, rfl => rfl
  | _, .float, _, _, _, rfl => rfl
  | _, .natural, _, value, _, rfl => if_pos (Int.natCast_nonneg value)
  | _, .integer, _, _, _, rfl => rfl
  | _, .text, _, _, _, rfl => rfl
  | _, .event, _, event, _, rfl => eventNamed?_name event
  | _, .optional _, _, none, _, hForm => by
    obtain rfl := hForm
    rfl
  | _, .optional inner, hClear, some value, json, hForm => by
    obtain ⟨hNeverNull, hInner⟩ := Bool.and_eq_true_iff.mp hClear
    rw [decode?_optional inner (inner.ne_null_of_form hNeverNull hForm),
      inner.decode?_of_form hInner hForm]
    rfl
  | _, .list inner, hClear, _, _, hForm => by
    obtain ⟨_, rfl, hItems⟩ := hForm
    exact mapM_of_forall₂ hItems fun _ _ hForm => inner.decode?_of_form hClear hForm
  | _, .fields isClosed fields, hClear, values, json, hForm => by
    obtain ⟨hNames, hFields⟩ := Bool.and_eq_true_iff.mp hClear
    obtain ⟨items, hForms, rfl | ⟨members, unknown, rfl, hPerm, hUnknown⟩⟩ := hForm
    · exact fields.decodeItems?_of_forms hFields hForms
    · have hKeys := keysAllowed_of_perm hPerm hUnknown
      have hRead := fields.decodeMembers?_of_forms hFields hForms fun name json =>
        valuesOf_of_perm (of_decide_eq_true hNames) hPerm fun member hMember =>
          (hUnknown member hMember).2
      exact (if_pos hKeys).trans hRead
  | _, .refined inner read write read_write, hClear, value, _, hForm => by
    change (inner.decode? _).bind read = some value
    rw [inner.decode?_of_form hClear hForm]
    exact read_write value

/-- The fields of an array are read in order. -/
theorem Fields.decodeItems?_of_forms : {τ : Type} → (fields : Fields τ) →
    fields.areUnambiguous = true → {values : τ} → {items : List Json} →
    fields.Forms values items → fields.decodeItems? items = some values
  | _, .nil, _, _, _, rfl => rfl
  | _, .cons _ layout rest, hClear, (value, values), _, hForms => by
    obtain ⟨hLayout, hRest⟩ := Bool.and_eq_true_iff.mp hClear
    obtain ⟨json, others, rfl, hForm, hOthers⟩ := hForms
    rw [decodeItems?_cons, layout.decode?_of_form hLayout hForm,
      rest.decodeItems?_of_forms hRest hOthers]
    rfl

/-- The fields of an object are read by their keys, wherever these stand. Every field looks at all
members, so these stay as they are while the fields get fewer. -/
theorem Fields.decodeMembers?_of_forms : {τ : Type} → (fields : Fields τ) →
    fields.areUnambiguous = true → {values : τ} → {items : List Json} →
    fields.Forms values items → {members : List (Option String × Json)} →
    (∀ name json, (name, json) ∈ fields.names.zip items → valuesOf name members = [json]) →
    fields.decodeMembers? members = some values
  | _, .nil, _, _, _, _, _, _ => rfl
  | _, .cons name layout rest, hClear, (value, values), _, hForms, members, hValues => by
    obtain ⟨hLayout, hRest⟩ := Bool.and_eq_true_iff.mp hClear
    obtain ⟨json, others, rfl, hForm, hOthers⟩ := hForms
    have hHead : valuesOf name members = [json] := hValues _ _ (List.mem_cons_self ..)
    have hTail := rest.decodeMembers?_of_forms hRest hOthers fun name json hMem =>
      hValues name json (List.mem_cons_of_mem _ hMem)
    rw [decodeMembers?_cons, hHead, Layout.pick?, layout.decode?_of_form hLayout hForm, hTail]
    rfl

end

/-! A known key that occurs twice is refused. -/

/-- One item that cannot be read spoils a list. -/
theorem mapM_eq_none {α β : Type} {read? : β → Option α} {items : List β} {item : β}
    (hMem : item ∈ items) (hNone : read? item = none) : items.mapM read? = none := by
  induction items with
  | nil => cases hMem
  | cons first items ih =>
    rcases List.mem_cons.mp hMem with rfl | hRest
    · simp [hNone]
    · simp [ih hRest]

theorem length_valuesOf (name : String) (members : List (Option String × Json)) :
    (valuesOf name members).length = (members.map Prod.fst).count (some name) := by
  rw [valuesOf, List.length_map, List.count, List.countP_map, ← List.countP_eq_length_filter]
  exact List.countP_congr fun member _ => by simp

theorem mem_valuesOf {name : String} {json : Json} {members : List (Option String × Json)} :
    json ∈ valuesOf name members ↔ (some name, json) ∈ members := by
  simp [valuesOf]

theorem Layout.not_repeats_null : {α : Type} → (layout : Layout α) → ¬ layout.Repeats .null
  | _, .optional inner, h => inner.not_repeats_null h
  | _, .list _, h => by
    obtain ⟨_, h, _⟩ := h
    cases h
  | _, .fields _ _, h => by rcases h with ⟨_, h, _⟩ | ⟨_, h, _⟩ <;> cases h
  | _, .refined inner _ _ _, h => inner.not_repeats_null h

/-- A field with two values is refused, whatever they are. -/
theorem Layout.pick?_of_twice {α : Type} (layout : Layout α) {values : List Json}
    (h : 2 ≤ values.length) : layout.pick? values = none := by
  match values, h with
  | _ :: _ :: _, _ => rfl

/-- One key that occurs twice spoils the object. -/
theorem Fields.decodeMembers?_of_twice : {τ : Type} → (fields : Fields τ) → {name : String} →
    name ∈ fields.names → {members : List (Option String × Json)} →
    2 ≤ (valuesOf name members).length → fields.decodeMembers? members = none
  | _, .cons first layout rest, name, hName, members, hTwice => by
    rw [decodeMembers?_cons]
    rcases List.mem_cons.mp hName with rfl | hRest
    · rw [layout.pick?_of_twice hTwice]
      rfl
    · rw [rest.decodeMembers?_of_twice hRest hTwice]
      exact Option.bind_fun_none _

mutual

/-- A known key that occurs twice is refused at any depth. By induction on the layout, together with
its fields. -/
theorem Layout.decode?_of_repeats : {α : Type} → (layout : Layout α) → {json : Json} →
    layout.Repeats json → layout.decode? json = none
  | _, .optional inner, json, h => by
    have hSome : json ≠ .null := by
      rintro rfl
      exact inner.not_repeats_null h
    rw [decode?_optional inner hSome, inner.decode?_of_repeats h]
    rfl
  | _, .list inner, _, h => by
    obtain ⟨items, rfl, item, hMem, hItem⟩ := h
    exact mapM_eq_none hMem (inner.decode?_of_repeats hItem)
  | _, .fields isClosed fields, _, h => by
    rcases h with ⟨items, rfl, hItems⟩ | ⟨members, rfl, hMembers⟩
    · exact fields.decodeItems?_of_repeat hItems
    · have hNone : fields.decodeMembers? members = none := by
        rcases hMembers with ⟨name, hName, hTwice⟩ | hInside
        · exact fields.decodeMembers?_of_twice hName (length_valuesOf name members ▸ hTwice)
        · exact fields.decodeMembers?_of_repeat hInside
      change (if _ then fields.decodeMembers? members else none) = none
      rw [hNone, ite_self]
  | _, .refined inner read _ _, json, h => by
    change (inner.decode? json).bind read = none
    rw [inner.decode?_of_repeats h]
    rfl

theorem Fields.decodeItems?_of_repeat : {τ : Type} → (fields : Fields τ) → {items : List Json} →
    fields.RepeatInItems items → fields.decodeItems? items = none
  | _, .cons _ layout rest, json :: items, h => by
    rw [decodeItems?_cons]
    rcases h with hHead | hRest
    · rw [layout.decode?_of_repeats hHead]
      rfl
    · rw [rest.decodeItems?_of_repeat hRest]
      exact Option.bind_fun_none _

theorem Fields.decodeMembers?_of_repeat : {τ : Type} → (fields : Fields τ) →
    {members : List (Option String × Json)} → fields.RepeatInMembers members →
    fields.decodeMembers? members = none
  | _, .cons name layout rest, members, h => by
    rw [decodeMembers?_cons]
    rcases h with ⟨json, hMem, hHead⟩ | hRest
    · have hPick : layout.pick? (valuesOf name members) = none := by
        match valuesOf name members, mem_valuesOf.mpr hMem with
        | [_], hOnly => exact List.mem_singleton.mp hOnly ▸ layout.decode?_of_repeats hHead
        | _ :: _ :: _, _ => rfl
      rw [hPick]
      rfl
    · rw [rest.decodeMembers?_of_repeat hRest]
      exact Option.bind_fun_none _

end

end Soaring.Record
