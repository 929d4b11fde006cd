import Proviso.Expr.Scope
import Proviso.Proofs.Record.Walks
import Proviso.Proofs.Schema.Agreement
import Proviso.Schema.Draft

/-!
Names of constants. A constant of a checked type has a name of its own among the constants and the
fields, and is found under it. A condition that gives the name means the constant, unless the name
is dotted and leads to a field of a nested object as well: then it means that field.
-/

namespace Proviso

open Outcome

/-! ## Checked constants -/

namespace ObjectTypeDraft

theorem constants_of_checkConstants {typeName : String} {fields before : List String}
    {declared : List (String × Value)} {constants : List (String × Scalar)}
    (checked : checkConstants typeName fields before declared = .ok constants) :
    declared = constants.map (fun (name, value) => (name, .scalar value)) ∧
      (constants.map Prod.fst).Nodup ∧
      ∀ name ∈ constants.map Prod.fst, name ∉ before ∧ name ∉ fields := by
  induction declared generalizing before constants with
  | nil =>
    cases checked
    exact ⟨rfl, List.nodup_nil, fun _ member => absurd member List.not_mem_nil⟩
  | cons first rest induction =>
    rcases first with ⟨name, value⟩
    unfold checkConstants at checked
    split at checked
    case isTrue => cases checked
    case isFalse noField =>
      cases value with
      | object record => cases checked
      | scalar value =>
        dsimp only at checked
        split at checked
        case isTrue => cases checked
        case isFalse fresh =>
          rcases map_eq_ok.mp checked with ⟨others, checkedOthers, rfl⟩
          rcases induction checkedOthers with ⟨rfl, distinct, unused⟩
          rw [List.contains_iff_mem] at noField fresh
          refine ⟨rfl, ?_, ?_⟩
          · rw [List.map_cons, List.nodup_cons]
            exact ⟨fun member => (unused name member).1 (List.mem_cons_self ..), distinct⟩
          · rw [List.map_cons, List.forall_mem_cons]
            refine ⟨⟨fresh, noField⟩, fun other member => ?_⟩
            have unusedOther := unused other member
            exact ⟨fun earlier => unusedOther.1 (List.mem_cons_of_mem _ earlier), unusedOther.2⟩

theorem constant?_of_build {draft : ObjectTypeDraft} {id : Nat} {type : ObjectType}
    (built : draft.build id = .ok type) {name : String} {value : Value}
    (declared : (name, value) ∈ draft.constants) :
    ∃ scalar, value = .scalar scalar ∧ type.constant? name = some scalar ∧
      ∀ field ∈ type.fields, field.name ≠ name := by
  rcases bind_eq_ok.mp built with ⟨_, _, built⟩
  rcases bind_eq_ok.mp built with ⟨constants, checked, built⟩
  rw [pure_eq_ok] at built
  subst built
  rcases constants_of_checkConstants checked with ⟨isDeclared, distinct, unused⟩
  rw [isDeclared] at declared
  rcases List.mem_map.mp declared with ⟨⟨_, scalar⟩, member, equal⟩
  rcases Prod.mk.inj equal with ⟨rfl, rfl⟩
  refine ⟨scalar, rfl, lookup_of_nodup distinct member, fun field isField isName => ?_⟩
  have isTaken : field.name ∈ draft.fields.map (·.name) := List.mem_map_of_mem isField
  exact (unused _ (List.mem_map_of_mem member)).2 (isName ▸ isTaken)

end ObjectTypeDraft

/-! ## Names that lead to fields -/

/-- Whether a dotted name leads from an object in a field of the type to a field of that object. -/
def ObjectType.ReachesInside (type : ObjectType) (name : String) : Prop :=
  ∃ first next rest slot owner nested field,
    Text.segments name = first :: next :: rest ∧ type.field? first = some (slot, owner) ∧
      owner.type.underlying = .object nested ∧ nested.fieldAt? (next :: rest) = some field

theorem Text.segments_singleton {name segment : String} (single : segments name = [segment]) :
    segment = name := by
  have joined := intercalate_segmentsAt '.' name.toList
  rcases List.map_eq_singleton_iff.mp single with ⟨chars, isSegment, rfl⟩
  rw [isSegment, List.intercalate_singleton] at joined
  rw [joined, String.ofList_toList]

theorem ObjectType.reachesInside_of_fieldAt? {type : ObjectType} {name : String} {field : Field}
    (noField : ∀ field ∈ type.fields, field.name ≠ name)
    (found : type.fieldAt? (Text.segments name) = some field) : type.ReachesInside name := by
  cases segments : Text.segments name with
  | nil => exact absurd segments (Text.segments_ne_nil name)
  | cons first rest =>
    rw [segments] at found
    cases rest with
    | nil =>
      rcases fieldAt?_singleton.mp found with ⟨slot, hasField⟩
      have isName := (name_of_field? hasField).trans (Text.segments_singleton segments)
      exact absurd isName (noField field (mem_of_field? hasField))
    | cons next rest =>
      rcases fieldAt?_cons.mp found with ⟨slot, owner, nested, hasField, isObject, found⟩
      exact ⟨first, next, rest, slot, owner, nested, field, segments, hasField, isObject, found⟩

theorem ObjectType.ReachesInside.exists_fieldAt? {type : ObjectType} {name : String}
    (reaches : type.ReachesInside name) :
    ∃ field, type.fieldAt? (Text.segments name) = some field := by
  rcases reaches with ⟨first, next, rest, slot, owner, nested, field, segments, hasField, isObject,
    found⟩
  rw [segments]
  exact ⟨field, fieldAt?_cons.mpr ⟨slot, owner, nested, hasField, isObject, found⟩⟩

/-! ## What a name means -/

namespace Scope

theorem resolveName_of_fieldAt? {scope : Scope} {path : String} {field : Field}
    (found : scope.context.fieldAt? (Text.segments path) = some field) (span : Span) :
    ∃ slots type, scope.resolveName path span = .ok (.property path slots type span) := by
  rcases ObjectType.exists_resolve_of_fieldAt? found false with ⟨slots, type, resolved⟩
  exact ⟨slots, type, by simp only [resolveName, resolved]⟩

theorem resolveName_of_constant? {scope : Scope} {name : String} {value : Scalar}
    (noField : scope.context.fieldAt? (Text.segments name) = none)
    (isConstant : scope.context.constant? name = some value) (span : Span) :
    scope.resolveName name span = .ok (.constant name value span) := by
  cases resolved : scope.context.resolve false (Text.segments name) with
  | ok found =>
    rcases ObjectType.fieldAt?_of_resolve resolved with ⟨field, found, _⟩
    cases noField.symm.trans found
  | error lost => simp only [resolveName, resolved, constant?, isConstant]

end Scope

/-- The name of a declared constant means the constant and leads to no field, unless it leads to a
field inside an object: a condition that gives it means that field then. -/
theorem ObjectTypeDraft.constant_named {draft : ObjectTypeDraft} {id : Nat} {type : ObjectType}
    (built : draft.build id = .ok type) {name : String} {value : Value}
    (declared : (name, value) ∈ draft.constants) :
    ∃ scalar, value = .scalar scalar ∧
      (¬ type.ReachesInside name →
        type.fieldAt? (Text.segments name) = none ∧
          ∀ (scope : Scope) (span : Span), scope.context = type →
            scope.resolveName name span = .ok (.constant name scalar span)) ∧
      (type.ReachesInside name →
        ∀ (scope : Scope) (span : Span), scope.context = type →
          ∃ slots found, scope.resolveName name span = .ok (.property name slots found span)) := by
  rcases constant?_of_build built declared with ⟨scalar, isScalar, isConstant, noField⟩
  refine ⟨scalar, isScalar, fun outside => ?_, fun reaches => ?_⟩
  · have noPath : type.fieldAt? (Text.segments name) = none := by
      rw [Option.eq_none_iff_forall_ne_some]
      exact fun field found => outside (ObjectType.reachesInside_of_fieldAt? noField found)
    refine ⟨noPath, ?_⟩
    rintro scope span rfl
    exact Scope.resolveName_of_constant? noPath isConstant span
  · rintro scope span rfl
    rcases reaches.exists_fieldAt? with ⟨field, found⟩
    exact Scope.resolveName_of_fieldAt? found span

def ObjectTypeDraft.personNaming (name : String) : ObjectTypeDraft :=
  ⟨"Person", ObjectType.person.fields, [(name, .scalar (.int 18))]⟩

theorem ObjectTypeDraft.constant_named_limit :
    let type : ObjectType := ⟨2, "Person", ObjectType.person.fields, [("Home.Limit", .int 18)]⟩
    (personNaming "Home.Limit").build 2 = .ok type ∧
      ("Home.Limit", .scalar (.int 18)) ∈ (personNaming "Home.Limit").constants ∧
      ∀ (library : Library) (span : Span),
        Scope.resolveName ⟨type, library, [], 256⟩ "Home.Limit" span =
          .ok (.constant "Home.Limit" (.int 18) span) := by
  intro type
  have built : (personNaming "Home.Limit").build 2 = .ok type := rfl
  have declared : ("Home.Limit", .scalar (.int 18)) ∈ (personNaming "Home.Limit").constants :=
    List.mem_singleton_self _
  have outside : ¬ type.ReachesInside "Home.Limit" := by
    intro reaches
    rcases reaches.exists_fieldAt? with ⟨field, found⟩
    have noLimit : type.fieldAt? (Text.segments "Home.Limit") = none := rfl
    cases noLimit.symm.trans found
  rcases constant_named built declared with ⟨_, isScalar, means, _⟩
  cases isScalar
  exact ⟨built, declared, fun library span => (means outside).2 ⟨type, library, [], 256⟩ span rfl⟩

/-- A constant `Home.City` is accepted, but its name means the city of the home. -/
theorem ObjectTypeDraft.constant_hidden_city :
    ∃ type, (personNaming "Home.City").build 2 = .ok type ∧
      ("Home.City", .scalar (.int 18)) ∈ (personNaming "Home.City").constants ∧
      (type.fieldAt? (Text.segments "Home.City")).isSome = true ∧
      ∀ (library : Library) (span : Span),
        Scope.resolveName ⟨type, library, [], 256⟩ "Home.City" span =
          .ok (.property "Home.City" [2, 0] (.nullable .string) span) :=
  ⟨_, rfl, List.mem_singleton_self _, rfl, fun _ _ => rfl⟩

end Proviso
