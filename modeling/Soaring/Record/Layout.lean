import Soaring.Event
import Soaring.Record.Json

/-!
Layouts: the JSON forms of typed values. A layout says how a value is written and which JSON values
are read as it. A record is written as an object with all fields in order; it is read from an object
with the fields in any order, in which fields that may be missing are, or from an array of all its
fields in order. No known field may occur twice.
-/
namespace Soaring.Record

mutual

/-- The JSON form of the values of a type. -/
inductive Layout : Type → Type 1 where
  | boolean : Layout Bool
  /-- A double; a number without point is taken for one too. -/
  | float : Layout Float
  /-- An integer that is not negative. -/
  | natural : Layout Nat
  | integer : Layout Int
  | text : Layout String
  /-- An event by its name. -/
  | event : Layout Event
  /-- A value that may be null, or missing from a record. -/
  | optional {α : Type} (inner : Layout α) : Layout (Option α)
  | list {α : Type} (inner : Layout α) : Layout (List α)
  /-- The fields of a record. A closed record refuses unknown keys, others pass over them. -/
  | fields {τ : Type} (isClosed : Bool) (fields : Fields τ) : Layout τ
  /-- A type whose values are written as some of those of another one. -/
  | refined {α β : Type} (inner : Layout β) (read : β → Option α) (write : α → β)
    (read_write : ∀ value, read (write value) = some value) : Layout α

/-- Named fields, over the nested pairs of their values. -/
inductive Fields : Type → Type 1 where
  | nil : Fields Unit
  | cons {α τ : Type} (name : String) (layout : Layout α) (rest : Fields τ) : Fields (α × τ)

end

def Fields.names : {τ : Type} → Fields τ → List String
  | _, .nil => []
  | _, .cons name _ rest => name :: rest.names

mutual

def Layout.encode : {α : Type} → Layout α → α → Json
  | _, .boolean, value => .bool value
  | _, .float, value => .number value
  | _, .natural, value => .integer value
  | _, .integer, value => .integer value
  | _, .text, value => .text value
  | _, .event, value => .text value.name
  | _, .optional _, none => .null
  | _, .optional inner, some value => inner.encode value
  | _, .list inner, values => .array (values.map inner.encode)
  | _, .fields _ fields, values => .object (fields.encodeMembers values)
  | _, .refined inner _ write _, value => inner.encode (write value)

/-- Writes the members of an object, in order. -/
def Fields.encodeMembers : {τ : Type} → Fields τ → τ → List (Option String × Json)
  | _, .nil, _ => []
  | _, .cons name layout rest, (value, values) =>
    (some name, layout.encode value) :: rest.encodeMembers values

end

/-- The value of a field that is missing, if it may be. -/
def Layout.missing? : {α : Type} → Layout α → Option α
  | _, .optional _ => some none
  | _, _ => none

def readFloat? : Json → Option Float
  | .integer value => some (Numeric.nearest (value < 0) value.natAbs 0)
  | .number value => some value
  | _ => none

def eventNamed? (name : String) : Option Event := Event.all.find? fun event => event.name = name

/-- An event from its name, or from an object that gives the name a null. -/
def readEvent? : Json → Option Event
  | .text name => eventNamed? name
  | .object [(some name, .null)] => eventNamed? name
  | _ => none

/-- The values of the members with the given key. -/
def valuesOf (name : String) (members : List (Option String × Json)) : List Json :=
  (members.filter fun member => member.1 = some name).map Prod.snd

/-- The keys of an object that a record can be read from: all spell a text, and in a closed record
all are known. -/
def keysAllowed (isClosed : Bool) (names : List String)
    (members : List (Option String × Json)) : Bool :=
  members.all fun member => match member.1 with
    | some key => !isClosed || names.contains key
    | none => false

mutual

def Layout.decode? : {α : Type} → Layout α → Json → Option α
  | _, .boolean, .bool value => some value
  | _, .float, json => readFloat? json
  | _, .natural, .integer value => if 0 ≤ value then some value.toNat else none
  | _, .integer, .integer value => some value
  | _, .text, .text value => some value
  | _, .event, json => readEvent? json
  | _, .optional _, .null => some none
  | _, .optional inner, json => (inner.decode? json).map some
  | _, .list inner, .array items => items.mapM inner.decode?
  | _, .fields isClosed fields, .object members =>
    if keysAllowed isClosed fields.names members then fields.decodeMembers? members else none
  | _, .fields _ fields, .array items => fields.decodeItems? items
  | _, .refined inner read _ _, json => (inner.decode? json).bind read
  | _, _, _ => none

/-- Reads the fields from the members of an object. -/
def Fields.decodeMembers? : {τ : Type} → Fields τ → List (Option String × Json) → Option τ
  | _, .nil, _ => some ()
  | _, .cons name layout rest, members => do
    let value ← match valuesOf name members with
      | [] => layout.missing?
      | [json] => layout.decode? json
      | _ => none
    let values ← rest.decodeMembers? members
    some (value, values)

/-- Reads the fields from the items of an array, which must be as many. -/
def Fields.decodeItems? : {τ : Type} → Fields τ → List Json → Option τ
  | _, .nil, [] => some ()
  | _, .cons _ layout rest, json :: items => do
    let value ← layout.decode? json
    let values ← rest.decodeItems? items
    some (value, values)
  | _, _, _ => none

end

/-- The form in which the value of a JSON value is written. -/
def Layout.canonical? {α : Type} (layout : Layout α) (json : Json) : Option Json :=
  (layout.decode? json).map layout.encode

end Soaring.Record
