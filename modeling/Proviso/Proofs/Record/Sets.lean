import Proviso.Proofs.Record.Serialization

/-!
What comes of setting fields one after the other. A draft holds the last value that each of its
fields was set to and depends on nothing else, so the order in which different fields are set makes
no difference.
-/

namespace Proviso

open Outcome

/-! ## The last value of a field -/

namespace Field

/-- What a field holds after a series of sets, if it was set at all: the last value, which becomes
a double where doubles are expected. -/
def lastOf (field : Field) (sets : List (String × Value)) : Option Value :=
  (sets.reverse.lookup field.name).map (·.widenTo field.type)

theorem lastOf_append_singleton_of_eq {field : Field} {name : String} (same : field.name = name)
    (sets : List (String × Value)) (value : Value) :
    field.lastOf (sets ++ [(name, value)]) = some (value.widenTo field.type) := by
  simp [lastOf, same]

theorem lastOf_append_singleton_of_ne {field : Field} {name : String} (different : field.name ≠ name)
    (sets : List (String × Value)) (value : Value) :
    field.lastOf (sets ++ [(name, value)]) = field.lastOf sets := by
  have missed : (field.name == name) = false := beq_eq_false_iff_ne.mpr different
  simp [lastOf, List.lookup_cons, missed]

theorem isSome_lastOf_iff {field : Field} {sets : List (String × Value)} :
    (field.lastOf sets).isSome = true ↔ field.name ∈ sets.map Prod.fst := by
  rw [lastOf, Option.isSome_map, Option.isSome_iff_ne_none, Ne, List.lookup_eq_none_iff]
  simp only [List.mem_reverse, List.mem_map, not_forall, bne_iff_ne, ne_eq, Decidable.not_not]
  constructor
  · rintro ⟨set, member, same⟩
    exact ⟨set, member, same.symm⟩
  · rintro ⟨set, member, same⟩
    exact ⟨set, member, same.symm⟩

theorem lastOf_eq_of_perm {sets others : List (String × Value)} (perm : sets.Perm others)
    (distinct : (sets.map Prod.fst).Nodup) (field : Field) :
    field.lastOf sets = field.lastOf others := by
  have reversed : sets.reverse.Perm others.reverse :=
    (List.reverse_perm sets).trans (perm.trans (List.reverse_perm others).symm)
  have distinctReversed : (sets.reverse.map Prod.fst).Nodup := by
    rwa [List.map_reverse, List.nodup_reverse]
  have distinctOthers : (others.reverse.map Prod.fst).Nodup :=
    (reversed.map Prod.fst).nodup_iff.mp distinctReversed
  have same (value : Value) : sets.reverse.lookup field.name = some value ↔
      others.reverse.lookup field.name = some value := by
    constructor
    · intro found
      rcases List.lookup_eq_some_iff.mp found with ⟨before, after, split, -⟩
      exact lookup_of_nodup distinctOthers (reversed.mem_iff.mp (by simp [split]))
    · intro found
      rcases List.lookup_eq_some_iff.mp found with ⟨before, after, split, -⟩
      exact lookup_of_nodup distinctReversed (reversed.mem_iff.mpr (by simp [split]))
  rw [lastOf, lastOf, Option.ext same]

end Field

def ObjectType.Accepts (type : ObjectType) (set : String × Value) : Prop :=
  ∃ slot field, type.field? set.1 = some (slot, field) ∧
    field.type.admits (set.2.widenTo field.type) = true

/-! ## Drafts -/

namespace RecordDraft

def after (type : ObjectType) (sets : List (String × Value)) : RecordDraft :=
  ⟨type, type.fields.map (·.lastOf sets)⟩

theorem after_nil (type : ObjectType) : after type [] = empty type :=
  rfl

theorem set_eq_ok {draft next : RecordDraft} {name : String} {value : Value} :
    draft.set name value = .ok next ↔
      ∃ slot field, draft.type.field? name = some (slot, field) ∧
        field.type.admits (value.widenTo field.type) = true ∧
          next = { draft with values := draft.values.set slot (some (value.widenTo field.type)) } := by
  unfold set
  split
  case h_1 unknown => simp [unknown]
  case h_2 slot field found =>
    simp only [found, Option.some.injEq, Prod.mk.injEq]
    constructor
    · intro isSet
      split at isSet
      case isTrue admitted =>
        cases isSet
        exact ⟨slot, field, ⟨rfl, rfl⟩, admitted, rfl⟩
      case isFalse => cases isSet
    · rintro ⟨_, _, ⟨rfl, rfl⟩, admitted, rfl⟩
      rw [if_pos admitted]

variable {type : ObjectType}

theorem after_append_singleton (distinct : (type.fields.map (·.name)).Nodup) {name : String}
    {slot : Nat} {field : Field} (found : type.field? name = some (slot, field))
    (sets : List (String × Value)) (value : Value) :
    after type (sets ++ [(name, value)]) =
      ⟨type, (after type sets).values.set slot (some (value.widenTo field.type))⟩ := by
  have hasField := ObjectType.getElem?_of_field? found
  have isName := ObjectType.name_of_field? found
  have inside := (List.getElem?_eq_some_iff.mp hasField).1
  rw [after, mk.injEq]
  refine ⟨rfl, List.ext_getElem? fun index => ?_⟩
  by_cases same : slot = index
  case pos =>
    subst same
    rw [List.getElem?_map, hasField, List.getElem?_set_self (by simpa [after] using inside)]
    exact congrArg some (Field.lastOf_append_singleton_of_eq isName sets value)
  case neg =>
    rw [List.getElem?_set_ne same, after, List.getElem?_map, List.getElem?_map]
    cases hasOther : type.fields[index]? with
    | none => rfl
    | some other =>
      have different : other.name ≠ name := by
        intro equal
        have foundOther := ObjectType.field?_of_getElem? distinct hasOther
        rw [equal, found] at foundOther
        exact same (Prod.mk.inj (Option.some.inj foundOther)).1
      exact congrArg some (Field.lastOf_append_singleton_of_ne different sets value)

theorem set_after (distinct : (type.fields.map (·.name)).Nodup) {sets : List (String × Value)}
    {name : String} {value : Value} {next : RecordDraft} :
    (after type sets).set name value = .ok next ↔
      type.Accepts (name, value) ∧ next = after type (sets ++ [(name, value)]) := by
  rw [set_eq_ok]
  constructor
  · rintro ⟨slot, field, found, admitted, rfl⟩
    exact ⟨⟨slot, field, found, admitted⟩, (after_append_singleton distinct found sets value).symm⟩
  · rintro ⟨⟨slot, field, found, admitted⟩, rfl⟩
    exact ⟨slot, field, found, admitted, after_append_singleton distinct found sets value⟩

theorem setAll_after (distinct : (type.fields.map (·.name)).Nodup)
    {before sets : List (String × Value)} {draft : RecordDraft} :
    (after type before).setAll sets = .ok draft ↔
      (∀ set ∈ sets, type.Accepts set) ∧ draft = after type (before ++ sets) := by
  induction sets generalizing before with
  | nil =>
    rw [setAll, Except.ok.injEq, List.append_nil, eq_comm]
    simp
  | cons set rest induction =>
    rcases set with ⟨name, value⟩
    rw [setAll, bind_eq_ok, List.forall_mem_cons]
    constructor
    · rintro ⟨middle, first, others⟩
      rcases (set_after distinct).mp first with ⟨accepted, rfl⟩
      rcases induction.mp others with ⟨acceptedRest, rfl⟩
      exact ⟨⟨accepted, acceptedRest⟩, by rw [List.append_assoc, List.singleton_append]⟩
    · rintro ⟨⟨accepted, acceptedRest⟩, rfl⟩
      refine ⟨_, (set_after distinct).mpr ⟨accepted, rfl⟩, ?_⟩
      exact induction.mpr ⟨acceptedRest, by rw [List.append_assoc, List.singleton_append]⟩

theorem setAll_empty (distinct : (type.fields.map (·.name)).Nodup) {sets : List (String × Value)}
    {draft : RecordDraft} :
    (empty type).setAll sets = .ok draft ↔
      (∀ set ∈ sets, type.Accepts set) ∧ draft = after type sets := by
  rw [← after_nil, setAll_after distinct, List.nil_append]

/-! ## Finished records -/

theorem complete_map {typeName : String} {fields : List Field} {held : Field → Option Value}
    {values : List Value} :
    complete typeName fields (fields.map held) = .ok values ↔
      (∀ field ∈ fields, field.type.isNullable = false → (held field).isSome = true) ∧
        values = fields.map fun field => (held field).getD .null := by
  induction fields generalizing values with
  | nil =>
    rw [List.map_nil, complete, Except.ok.injEq, eq_comm, List.map_nil]
    · simp
    · intro _ _ _ _ isCons
      cases isCons
  | cons field fields induction =>
    have behind (first : Value) :
        (complete typeName fields (fields.map held)).map (first :: ·) = .ok values ↔
          (∀ field ∈ fields, field.type.isNullable = false → (held field).isSome = true) ∧
            values = first :: fields.map fun field => (held field).getD .null := by
      rw [map_eq_ok]
      constructor
      · rintro ⟨rest, completed, rfl⟩
        rcases induction.mp completed with ⟨required, rfl⟩
        exact ⟨required, rfl⟩
      · rintro ⟨required, rfl⟩
        exact ⟨_, induction.mpr ⟨required, rfl⟩, rfl⟩
    rw [List.map_cons, List.map_cons, List.forall_mem_cons]
    cases isHeld : held field with
    | some value => simp [complete, behind]
    | none =>
      cases nullable : field.type.isNullable with
      | true => simp [complete, nullable, behind]
      | false => simp [complete, nullable]

theorem build_after {sets : List (String × Value)} {record : Record} :
    (after type sets).build = .ok record ↔
      (∀ field ∈ type.fields, field.type.isNullable = false → field.name ∈ sets.map Prod.fst) ∧
        record = ⟨type, type.fields.map fun field => (field.lastOf sets).getD .null⟩ := by
  simp only [build, after, map_eq_ok, complete_map, Field.isSome_lastOf_iff]
  constructor
  · rintro ⟨values, ⟨required, rfl⟩, rfl⟩
    exact ⟨required, rfl⟩
  · rintro ⟨required, rfl⟩
    exact ⟨_, ⟨required, rfl⟩, rfl⟩

/-- A record can be built from a series of sets that each succeed and among which there is one for
every field that cannot be null; every field then holds the last value it was set to. -/
theorem setAll_build_eq_ok (distinct : (type.fields.map (·.name)).Nodup)
    {sets : List (String × Value)} {record : Record} :
    ((empty type).setAll sets >>= build) = .ok record ↔
      (∀ set ∈ sets, type.Accepts set) ∧
        (∀ field ∈ type.fields, field.type.isNullable = false →
          field.name ∈ sets.map Prod.fst) ∧
          record = ⟨type, type.fields.map fun field => (field.lastOf sets).getD .null⟩ := by
  simp only [bind_eq_ok, setAll_empty distinct]
  constructor
  · rintro ⟨_, ⟨accepted, rfl⟩, built⟩
    exact ⟨accepted, build_after.mp built⟩
  · rintro ⟨accepted, finished⟩
    exact ⟨_, ⟨accepted, rfl⟩, build_after.mpr finished⟩

end RecordDraft

/-! ## Sets of different fields -/

/-- Whether the fields of a type are set apart from each other: each set reaches one field only, the
last one decides, and the order of sets of different fields makes no difference. -/
structure ObjectType.SetsApart (type : ObjectType) : Prop where
  /-- A set fills the slot of its field and leaves the other slots as they are. -/
  slot (sets : List (String × Value)) (draft next : RecordDraft) (name : String) (value : Value) :
    (RecordDraft.empty type).setAll sets = .ok draft → draft.set name value = .ok next →
      next.type = type ∧ ∃ slot field, type.field? name = some (slot, field) ∧
        next.values[slot]? = some (some (value.widenTo field.type)) ∧
          ∀ other, other ≠ slot → next.values[other]? = draft.values[other]?
  /-- A field of a finished record holds the last value it was set to, or null. -/
  last (sets : List (String × Value)) (record : Record) :
    ((RecordDraft.empty type).setAll sets >>= RecordDraft.build) = .ok record →
      ∀ field ∈ type.fields, record.get? field.name = some ((field.lastOf sets).getD .null)
  /-- Sets of different fields can be put in any order. -/
  order (sets others : List (String × Value)) (record : Record) :
    sets.Perm others → (sets.map Prod.fst).Nodup →
      (((RecordDraft.empty type).setAll sets >>= RecordDraft.build) = .ok record ↔
        ((RecordDraft.empty type).setAll others >>= RecordDraft.build) = .ok record)

namespace ObjectType

variable {type : ObjectType}

theorem setsApart_of_nodup (distinct : (type.fields.map (·.name)).Nodup) : type.SetsApart := by
  constructor
  case slot =>
    intro sets draft next name value first isSet
    rcases (RecordDraft.setAll_empty distinct).mp first with ⟨-, rfl⟩
    rcases RecordDraft.set_eq_ok.mp isSet with ⟨slot, field, found, -, rfl⟩
    have inside : slot < (RecordDraft.after type sets).values.length := by
      simpa [RecordDraft.after] using (List.getElem?_eq_some_iff.mp (getElem?_of_field? found)).1
    refine ⟨rfl, slot, field, found, List.getElem?_set_self inside, fun other different => ?_⟩
    exact List.getElem?_set_ne different.symm
  case last =>
    intro sets record built field member
    rcases (RecordDraft.setAll_build_eq_ok distinct).mp built with ⟨-, -, rfl⟩
    rcases List.mem_iff_getElem?.mp member with ⟨slot, hasField⟩
    rw [Record.get?, field?_of_getElem? distinct hasField]
    simp only [Option.bind_some, List.getElem?_map, hasField, Option.map_some]
  case order =>
    intro sets others record perm different
    have keys := perm.map Prod.fst
    rw [RecordDraft.setAll_build_eq_ok distinct, RecordDraft.setAll_build_eq_ok distinct]
    simp only [perm.mem_iff, keys.mem_iff, Field.lastOf_eq_of_perm perm different]

end ObjectType

end Proviso
