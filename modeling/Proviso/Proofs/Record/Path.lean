import Proviso.Proofs.Record.Building
import Proviso.Schema.Path

/-!
The value at the end of a path. A path that resolves for a type can be read from every record
built over it, by its names as well as by its slots; both ways lead to one value, and the value
belongs to the type at the end of the path.
-/

namespace Proviso

open Outcome

/-! ## Types at the ends of paths -/

namespace Ty

theorem admits_orNull {type : Ty} {value : Value} (admitted : type.admits value = true) :
    type.orNull.admits value = true := by
  cases type with
  | nullable inner => exact admitted
  | null => exact admitted
  | _ =>
    cases value with
    | scalar value => cases value <;> first | rfl | exact admitted
    | object record => exact admitted

theorem object_or_null_of_admits {type : Ty} {nested : ObjectType} {value : Value}
    (isObject : type.underlying = .object nested) (admitted : type.admits value = true) :
    (∃ record, value = .object record ∧ record.type.id = nested.id) ∨
      value = .null ∧ type.isNullable = true := by
  cases type with
  | object type =>
    cases isObject
    cases value with
    | scalar value => cases value <;> cases admitted
    | object record => exact .inl ⟨record, rfl, by simpa [admits] using admitted⟩
  | nullable inner =>
    cases isObject
    cases value with
    | scalar value =>
      cases value with
      | null => exact .inr ⟨rfl, rfl⟩
      | _ => cases admitted
    | object record => exact .inl ⟨record, rfl, by simpa [admits] using admitted⟩
  | _ => cases isObject

end Ty

namespace ObjectType

theorem resolve_singleton {type : ObjectType} {lifted : Bool} {segment : String}
    {slots : List Nat} {found : Ty}
    (resolved : type.resolve lifted [segment] = .ok (slots, found)) :
    ∃ slot field, type.field? segment = some (slot, field) ∧ slots = [slot] ∧
      found = if lifted then field.type.orNull else field.type := by
  simp only [resolve] at resolved
  split at resolved
  case h_1 slot field hasField =>
    rcases Prod.mk.inj (Except.ok.inj resolved) with ⟨rfl, rfl⟩
    exact ⟨slot, field, hasField, rfl, rfl⟩
  case h_2 => cases resolved

theorem resolve_cons {type : ObjectType} {lifted : Bool} {segment next : String}
    {rest : List String} {slots : List Nat} {found : Ty}
    (resolved : type.resolve lifted (segment :: next :: rest) = .ok (slots, found)) :
    ∃ slot field nested others, type.field? segment = some (slot, field) ∧
      field.type.underlying = .object nested ∧
      nested.resolve (lifted || field.type.isNullable) (next :: rest) = .ok (others, found) ∧
      slots = slot :: others := by
  simp only [resolve] at resolved
  split at resolved
  case h_1 slot field hasField =>
    split at resolved
    case h_1 nested isObject =>
      rcases map_eq_ok.mp resolved with ⟨⟨others, _⟩, inner, equal⟩
      rcases Prod.mk.inj equal with ⟨rfl, rfl⟩
      exact ⟨slot, field, nested, others, hasField, isObject, inner, rfl⟩
    case h_2 => cases resolved
  case h_2 => cases resolved

theorem resolve_ne_nil {type : ObjectType} {lifted : Bool} {path : List String}
    {slots : List Nat} {found : Ty} (resolved : type.resolve lifted path = .ok (slots, found)) :
    slots ≠ [] := by
  match path with
  | [] => cases resolved
  | [segment] =>
    rcases resolve_singleton resolved with ⟨slot, field, _, rfl, _⟩
    exact List.cons_ne_nil _ _
  | segment :: next :: rest =>
    rcases resolve_cons resolved with ⟨slot, field, nested, others, _, _, _, rfl⟩
    exact List.cons_ne_nil _ _

theorem isNullable_of_resolve_lifted {type : ObjectType} {path : List String}
    {slots : List Nat} {found : Ty} (resolved : type.resolve true path = .ok (slots, found)) :
    found.isNullable = true := by
  induction path generalizing type slots with
  | nil => cases resolved
  | cons segment rest induction =>
    cases rest with
    | nil =>
      rcases resolve_singleton resolved with ⟨slot, field, _, _, rfl⟩
      exact Ty.isNullable_orNull _
    | cons next rest =>
      rcases resolve_cons resolved with ⟨slot, field, nested, others, _, _, inner, _⟩
      exact induction inner

end ObjectType

/-! ## Reading -/

namespace Record

def checkedFrom? : Value → List Nat → Option Value
  | value, [] => some value
  | .object record, slot :: rest => record.values[slot]?.bind (checkedFrom? · rest)
  | _, _ :: _ => some .null

/-- The value at a path of slots, if no slot lies outside its record. -/
def checkedSlots? (record : Record) : List Nat → Option Value
  | [] => some .null
  | slot :: rest => record.values[slot]?.bind (checkedFrom? · rest)

theorem slotsFrom_of_checkedFrom? {start value : Value} {slots : List Nat}
    (checked : checkedFrom? start slots = some value) : slotsFrom start slots = value := by
  induction slots generalizing start with
  | nil => simpa [checkedFrom?, slotsFrom] using checked
  | cons slot rest induction =>
    cases start with
    | scalar start => simpa [checkedFrom?, slotsFrom] using checked
    | object record =>
      rcases Option.bind_eq_some_iff.mp checked with ⟨inner, hasValue, checked⟩
      simpa [slotsFrom, hasValue] using induction checked

theorem atSlots_of_checkedSlots? {record : Record} {value : Value} {slots : List Nat}
    (checked : record.checkedSlots? slots = some value) : record.atSlots slots = value := by
  cases slots with
  | nil => simpa [checkedSlots?, atSlots] using checked
  | cons slot rest =>
    rcases Option.bind_eq_some_iff.mp checked with ⟨inner, hasValue, checked⟩
    simpa [atSlots, hasValue] using slotsFrom_of_checkedFrom? checked

variable {schema : Schema}

theorem Built.value_of_field? {record : Record} (built : record.Built schema) {name : String}
    {slot : Nat} {field : Field} (hasField : record.type.field? name = some (slot, field)) :
    ∃ value, record.values[slot]? = some value ∧ record.get? name = some value ∧
      field.type.admits value = true := by
  have fits := built.fits.2
  have atSlot := ObjectType.getElem?_of_field? hasField
  have inside : slot < record.values.length :=
    fits.length_eq ▸ (List.getElem?_eq_some_iff.mp atSlot).1
  have hasValue := List.getElem?_eq_getElem inside
  exact ⟨record.values[slot], hasValue, by simp [get?, hasField, hasValue],
    fits.admits atSlot hasValue⟩

theorem Built.inner {record inner : Record} (built : record.Built schema) {name : String}
    {slot : Nat} {field : Field} {nested : ObjectType}
    (hasField : record.type.field? name = some (slot, field))
    (hasValue : record.values[slot]? = some (.object inner))
    (isObject : field.type.underlying = .object nested) :
    inner.Built schema ∧ inner.type = nested := by
  have innerBuilt := built.fits.2.nested (List.mem_of_getElem? hasValue)
  have admitted := built.fits.2.admits (ObjectType.getElem?_of_field? hasField) hasValue
  have nestedKnown :=
    schema.closed _ built.fits.1 _ (ObjectType.mem_of_field? hasField) _ isObject
  refine ⟨innerBuilt, ?_⟩
  rcases Ty.object_or_null_of_admits isObject admitted with ⟨_, same, sameId⟩ | ⟨isNull, _⟩
  · cases same
    exact schema.identified _ innerBuilt.fits.1 _ nestedKnown sameId
  · cases isNull

/-- A path that resolves is read by its names and by its slots alike; the value that is read
belongs to the type at the end of the path, and no slot lies outside its record. -/
theorem Built.read_of_resolve {record : Record} (built : record.Built schema) {lifted : Bool}
    {path : List String} {slots : List Nat} {found : Ty}
    (resolved : record.type.resolve lifted path = .ok (slots, found)) :
    ∃ value, record.at? path = some value ∧ record.checkedSlots? slots = some value ∧
      found.admits value = true := by
  induction path generalizing record lifted slots with
  | nil => cases resolved
  | cons segment rest induction =>
    cases rest with
    | nil =>
      rcases ObjectType.resolve_singleton resolved with ⟨slot, field, hasField, rfl, rfl⟩
      rcases built.value_of_field? hasField with ⟨value, hasValue, named, admitted⟩
      refine ⟨value, by simp [at?, named, follow], by simp [checkedSlots?, hasValue, checkedFrom?],
        ?_⟩
      split
      · exact Ty.admits_orNull admitted
      · exact admitted
    | cons next rest =>
      rcases ObjectType.resolve_cons resolved with
        ⟨slot, field, nested, others, hasField, isObject, innerResolved, rfl⟩
      rcases built.value_of_field? hasField with ⟨value, hasValue, named, admitted⟩
      rcases Ty.object_or_null_of_admits isObject admitted with
        ⟨inner, rfl, _⟩ | ⟨rfl, nullable⟩
      · rcases built.inner hasField hasValue isObject with ⟨innerBuilt, rfl⟩
        rcases induction innerBuilt innerResolved with ⟨value, byName, bySlots, admitted⟩
        refine ⟨value, ?_, ?_, admitted⟩
        · simpa [at?, named, follow] using byName
        · cases others with
          | nil => exact absurd rfl (ObjectType.resolve_ne_nil innerResolved)
          | cons => simpa [checkedSlots?, hasValue, checkedFrom?] using bySlots
      · rw [nullable, Bool.or_true] at innerResolved
        refine ⟨.null, by simp [at?, named, follow], ?_,
          Ty.admits_null (ObjectType.isNullable_of_resolve_lifted innerResolved)⟩
        cases others with
        | nil => exact absurd rfl (ObjectType.resolve_ne_nil innerResolved)
        | cons => simp [checkedSlots?, hasValue, checkedFrom?]

end Record

end Proviso
