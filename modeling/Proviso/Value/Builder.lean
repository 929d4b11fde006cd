import Proviso.Value.Basic

/-!
Building records. Fields are set one by one, in any order and as often as one likes, to values
that belong to their types; in the end every field that cannot be null must have been set.
-/

namespace Proviso

structure RecordDraft where
  type : ObjectType
  values : List (Option Value)

namespace RecordDraft

def empty (type : ObjectType) : RecordDraft :=
  ⟨type, type.fields.map fun _ => none⟩

/-- Sets a field; a whole number is widened if the field holds doubles. -/
def set (draft : RecordDraft) (name : String) (value : Value) : Except SchemaFault RecordDraft :=
  match draft.type.field? name with
  | none => .error (.unknownField draft.type.name name)
  | some (slot, field) =>
    let value := value.widenTo field.type
    if field.type.admits value then
      .ok { draft with values := draft.values.set slot (some value) }
    else .error (.unfitValue draft.type.name name field.type.text value.kind)

/-- The values in the order of the fields, null for the nullable ones that were not set. -/
def complete (typeName : String) : List Field → List (Option Value) → Except SchemaFault (List Value)
  | field :: fields, value :: values =>
    match value with
    | some value => (complete typeName fields values).map (value :: ·)
    | none =>
      if field.type.isNullable then (complete typeName fields values).map (.null :: ·)
      else .error (.missingField typeName field.name)
  | _, _ => .ok []

def build (draft : RecordDraft) : Except SchemaFault Record :=
  (complete draft.type.name draft.type.fields draft.values).map fun values => ⟨draft.type, values⟩

end RecordDraft

end Proviso
