import Proviso.Proofs.Record.Path

/-!
The four walks along a dotted path. The one that finds slots succeeds where the one that finds the
field does, and of the segments on which it fails names the first at which the field is lost. What
is found so can be read from every record of the type, by names and by slots alike.
-/

namespace Proviso

open Outcome

namespace ObjectType

/-! ## Fields at the ends of paths -/

theorem fieldAt?_singleton {type : ObjectType} {segment : String} {field : Field} :
    type.fieldAt? [segment] = some field ↔
      ∃ slot, type.field? segment = some (slot, field) := by
  simp [fieldAt?, Prod.exists]

theorem fieldAt?_through {type nested : ObjectType} {segment : String} {rest : List String}
    {slot : Nat} {owner : Field} (hasField : type.field? segment = some (slot, owner))
    (isObject : owner.type.underlying = .object nested) (nonempty : rest ≠ []) :
    type.fieldAt? (segment :: rest) = nested.fieldAt? rest := by
  cases rest with
  | nil => exact absurd rfl nonempty
  | cons next rest => simp only [fieldAt?, hasField, isObject]

theorem fieldAt?_cons {type : ObjectType} {segment next : String} {rest : List String}
    {field : Field} :
    type.fieldAt? (segment :: next :: rest) = some field ↔
      ∃ slot owner nested, type.field? segment = some (slot, owner) ∧
        owner.type.underlying = .object nested ∧ nested.fieldAt? (next :: rest) = some field := by
  constructor
  · intro found
    simp only [fieldAt?] at found
    split at found
    case h_1 slot owner hasField =>
      split at found
      case h_1 nested isObject => exact ⟨slot, owner, nested, hasField, isObject, found⟩
      case h_2 => cases found
    case h_2 => cases found
  · rintro ⟨slot, owner, nested, hasField, isObject, found⟩
    rwa [fieldAt?_through hasField isObject (List.cons_ne_nil _ _)]

/-- Whether the field at the end of a path, or one on the way to it, can be null. -/
def PassesNullable (type : ObjectType) (path : List String) : Prop :=
  ∃ before field, before <+: path ∧ type.fieldAt? before = some field ∧
    field.type.isNullable = true

theorem passesNullable_singleton {type : ObjectType} {segment : String} {slot : Nat}
    {field : Field} (hasField : type.field? segment = some (slot, field)) :
    type.PassesNullable [segment] ↔ field.type.isNullable = true := by
  constructor
  · rintro ⟨before, passed, isPrefix, found, nullable⟩
    rcases List.prefix_cons_iff.mp isPrefix with rfl | ⟨others, rfl, shorter⟩
    · cases found
    · rcases List.prefix_nil.mp shorter with rfl
      rcases fieldAt?_singleton.mp found with ⟨_, hasPassed⟩
      rw [hasField] at hasPassed
      cases hasPassed
      exact nullable
  · intro nullable
    exact ⟨[segment], field, List.prefix_rfl, fieldAt?_singleton.mpr ⟨slot, hasField⟩, nullable⟩

theorem passesNullable_cons {type nested : ObjectType} {segment next : String}
    {rest : List String} {slot : Nat} {owner : Field}
    (hasField : type.field? segment = some (slot, owner))
    (isObject : owner.type.underlying = .object nested) :
    type.PassesNullable (segment :: next :: rest) ↔
      owner.type.isNullable = true ∨ nested.PassesNullable (next :: rest) := by
  constructor
  · rintro ⟨before, passed, isPrefix, found, nullable⟩
    rcases List.prefix_cons_iff.mp isPrefix with rfl | ⟨others, rfl, shorter⟩
    · cases found
    cases others with
    | nil =>
      rcases fieldAt?_singleton.mp found with ⟨_, hasPassed⟩
      rw [hasField] at hasPassed
      cases hasPassed
      exact .inl nullable
    | cons other others =>
      rcases fieldAt?_cons.mp found with ⟨_, first, inner, hasFirst, isInner, found⟩
      rw [hasField] at hasFirst
      cases hasFirst
      rw [isObject] at isInner
      cases isInner
      exact .inr ⟨other :: others, passed, shorter, found, nullable⟩
  · rintro (nullable | ⟨before, passed, isPrefix, found, nullable⟩)
    · exact ⟨[segment], owner, by simp, fieldAt?_singleton.mpr ⟨slot, hasField⟩, nullable⟩
    · cases before with
      | nil => cases found
      | cons other others =>
        exact ⟨segment :: other :: others, passed, List.prefix_cons_inj _ |>.mpr isPrefix,
          fieldAt?_cons.mpr ⟨slot, owner, nested, hasField, isObject, found⟩, nullable⟩

/-! ## Resolving -/

theorem fieldAt?_of_resolve {type : ObjectType} {lifted : Bool} {path : List String}
    {slots : List Nat} {found : Ty} (resolved : type.resolve lifted path = .ok (slots, found)) :
    ∃ field, type.fieldAt? path = some field ∧ found.underlying = field.type.underlying ∧
      (found.isNullable = true ↔ lifted = true ∨ type.PassesNullable path) := by
  induction path generalizing type lifted slots with
  | nil => cases resolved
  | cons segment rest induction =>
    cases rest with
    | nil =>
      rcases resolve_singleton resolved with ⟨slot, field, hasField, _, rfl⟩
      refine ⟨field, fieldAt?_singleton.mpr ⟨slot, hasField⟩, ?_, ?_⟩
      · split
        · cases field.type <;> rfl
        · rfl
      · rw [passesNullable_singleton hasField]
        cases lifted <;> simp
    | cons next rest =>
      rcases resolve_cons resolved with
        ⟨slot, owner, nested, others, hasField, isObject, innerResolved, _⟩
      rcases induction innerResolved with ⟨field, found, sameUnderlying, nullable⟩
      refine ⟨field, fieldAt?_cons.mpr ⟨slot, owner, nested, hasField, isObject, found⟩,
        sameUnderlying, ?_⟩
      rw [nullable, passesNullable_cons hasField isObject, Bool.or_eq_true, or_assoc]

theorem exists_resolve_of_fieldAt? {type : ObjectType} {path : List String} {field : Field}
    (found : type.fieldAt? path = some field) (lifted : Bool) :
    ∃ slots last, type.resolve lifted path = .ok (slots, last) := by
  induction path generalizing type lifted with
  | nil => cases found
  | cons segment rest induction =>
    cases rest with
    | nil =>
      rcases fieldAt?_singleton.mp found with ⟨slot, hasField⟩
      exact ⟨[slot], if lifted then field.type.orNull else field.type,
        by simp only [resolve, hasField]⟩
    | cons next rest =>
      rcases fieldAt?_cons.mp found with ⟨slot, owner, nested, hasField, isObject, found⟩
      rcases induction found (lifted || owner.type.isNullable) with ⟨slots, last, resolved⟩
      exact ⟨slot :: slots, last, by simp only [resolve, hasField, isObject, resolved]; rfl⟩

theorem resolve_error {type : ObjectType} {lifted : Bool} {segment lost : String}
    {rest : List String} (failed : type.resolve lifted (segment :: rest) = .error lost) :
    type.field? segment = none ∧ lost = segment ∨
      ∃ slot owner next others, type.field? segment = some (slot, owner) ∧ rest = next :: others ∧
        ((∀ nested, owner.type.underlying ≠ .object nested) ∧ lost = next ∨
          ∃ nested, owner.type.underlying = .object nested ∧
            nested.resolve (lifted || owner.type.isNullable) rest = .error lost) := by
  cases hasField : type.field? segment with
  | none =>
    left
    cases rest <;> simpa [resolve, hasField, eq_comm] using failed
  | some found =>
    rcases found with ⟨slot, owner⟩
    right
    cases rest with
    | nil => simp [resolve, hasField] at failed
    | cons next others =>
      refine ⟨slot, owner, next, others, rfl, rfl, ?_⟩
      simp only [resolve, hasField] at failed
      split at failed
      case h_1 nested isObject =>
        right
        refine ⟨nested, isObject, ?_⟩
        cases inner : nested.resolve (lifted || owner.type.isNullable) (next :: others) with
        | ok result => simp [inner, Except.map] at failed
        | error segment => simpa [inner, Except.map] using failed
      case h_2 noObject => exact .inl ⟨noObject, (Except.error.inj failed).symm⟩

theorem lost_of_resolve_error {type : ObjectType} {lifted : Bool} {path : List String}
    {lost : String} (nonempty : path ≠ []) (failed : type.resolve lifted path = .error lost) :
    ∃ before after, path = before ++ lost :: after ∧
      type.fieldAt? (before ++ [lost]) = none ∧
      ∀ earlier, earlier <+: before → earlier ≠ [] → (type.fieldAt? earlier).isSome = true := by
  induction path generalizing type lifted with
  | nil => exact absurd rfl nonempty
  | cons segment rest induction =>
    rcases resolve_error failed with
      ⟨missing, rfl⟩ | ⟨slot, owner, next, others, hasField, rfl, noObject | inner⟩
    · refine ⟨[], rest, rfl, by simp [fieldAt?, missing], fun earlier shorter notEmpty => ?_⟩
      exact absurd (List.prefix_nil.mp shorter) notEmpty
    · rcases noObject with ⟨noObject, rfl⟩
      refine ⟨[segment], others, rfl, ?_, fun earlier shorter notEmpty => ?_⟩
      · rw [Option.eq_none_iff_forall_ne_some]
        intro field found
        rcases fieldAt?_cons.mp found with ⟨_, first, nested, hasFirst, isObject, _⟩
        rw [hasField] at hasFirst
        cases hasFirst
        exact noObject nested isObject
      · rcases List.prefix_cons_iff.mp shorter with rfl | ⟨behind, rfl, inside⟩
        · exact absurd rfl notEmpty
        · rcases List.prefix_nil.mp inside with rfl
          exact Option.isSome_iff_exists.mpr ⟨owner, fieldAt?_singleton.mpr ⟨slot, hasField⟩⟩
    · rcases inner with ⟨nested, isObject, innerFailed⟩
      rcases induction (List.cons_ne_nil _ _) innerFailed with
        ⟨before, after, split, isLost, earlierFound⟩
      refine ⟨segment :: before, after, congrArg (segment :: ·) split, ?_,
        fun earlier shorter notEmpty => ?_⟩
      · rw [List.cons_append, fieldAt?_through hasField isObject (by simp), isLost]
      · rcases List.prefix_cons_iff.mp shorter with rfl | ⟨behind, rfl, inside⟩
        · exact absurd rfl notEmpty
        · cases behind with
          | nil =>
            exact Option.isSome_iff_exists.mpr ⟨owner, fieldAt?_singleton.mpr ⟨slot, hasField⟩⟩
          | cons other behind =>
            rw [fieldAt?_through hasField isObject (by simp)]
            exact earlierFound _ inside (by simp)

end ObjectType

/-! ## Agreement -/

open ObjectType

/-- The walks along a dotted path agree. Resolving finds slots and a type exactly where there is a
field at the end of the path; the type is the field's, and nullable as soon as the field or an
object on the way is. Every record that was built reads one value along the path, by its names and
by the slots, none of which lies outside its record, and the type admits it. Where resolving fails,
it names the first segment up to which the path has no field. -/
theorem ObjectType.walks_agree (type : ObjectType) (path : String) :
    ((∃ slots found, type.resolve false (Text.segments path) = .ok (slots, found)) ↔
      ∃ field, type.fieldAt? (Text.segments path) = some field) ∧
    (∀ slots found, type.resolve false (Text.segments path) = .ok (slots, found) →
      (∃ field, type.fieldAt? (Text.segments path) = some field ∧
        found.underlying = field.type.underlying) ∧
      (found.isNullable = true ↔ type.PassesNullable (Text.segments path)) ∧
      ∀ (schema : Schema) (record : Record), record.Built schema → record.type = type →
        ∃ value, record.at? (Text.segments path) = some value ∧
          record.checkedSlots? slots = some value ∧ record.atSlots slots = value ∧
          found.admits value = true) ∧
    (∀ lost, type.resolve false (Text.segments path) = .error lost →
      ∃ before after, Text.segments path = before ++ lost :: after ∧
        type.fieldAt? (before ++ [lost]) = none ∧
        ∀ earlier, earlier <+: before → earlier ≠ [] →
          (type.fieldAt? earlier).isSome = true) := by
  refine ⟨⟨?_, ?_⟩, fun slots found resolved => ?_, fun lost failed => ?_⟩
  · rintro ⟨slots, found, resolved⟩
    rcases fieldAt?_of_resolve resolved with ⟨field, hasField, _⟩
    exact ⟨field, hasField⟩
  · rintro ⟨field, hasField⟩
    exact exists_resolve_of_fieldAt? hasField false
  · rcases fieldAt?_of_resolve resolved with ⟨field, hasField, sameUnderlying, nullable⟩
    refine ⟨⟨field, hasField, sameUnderlying⟩, by simpa using nullable, ?_⟩
    rintro schema record built rfl
    rcases built.read_of_resolve resolved with ⟨value, named, checked, admitted⟩
    exact ⟨value, named, checked, Record.atSlots_of_checkedSlots? checked, admitted⟩
  · exact lost_of_resolve_error (Text.segments_ne_nil path) failed

theorem ObjectType.walks_agree_person :
    person.resolve false (Text.segments "Home.City") = .ok ([2, 0], .nullable .string) ∧
      ∃ value, (Record.homeless 30 "Ada").at? (Text.segments "Home.City") = some value ∧
        (Record.homeless 30 "Ada").checkedSlots? [2, 0] = some value ∧
        (Record.homeless 30 "Ada").atSlots [2, 0] = value ∧
        (Ty.nullable .string).admits value = true := by
  have resolved :
      person.resolve false (Text.segments "Home.City") = .ok ([2, 0], .nullable .string) := by
    rfl
  have agree := (walks_agree person "Home.City").2.1 _ _ resolved
  exact ⟨resolved, agree.2.2 .people (.homeless 30 "Ada") (Record.built_homeless 30 "Ada") rfl⟩

end Proviso
