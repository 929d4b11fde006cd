import Mathlib.Data.List.Forall2
import Proviso.Proofs.Record.Sets

/-!
Records are well typed at any depth: wherever one comes from, it has a value for every field of its
type, and each value is one that the type of the field describes. The data that a record can be
read from is described in the same way, without reading it.
-/

namespace Proviso

open Outcome

/-! ## Values of types -/

/-- Whether a value is one of a type. Null is one only where it was added, and a record is one of
its own type only. -/
inductive Ty.Holds : Ty → Value → Prop where
  | null : Holds .null .null
  | absent (inner : Ty) : Holds (.nullable inner) .null
  | present {inner : Ty} {value : Value} (holds : Holds inner value) : Holds (.nullable inner) value
  | bool (value : Bool) : Holds .bool (.bool value)
  | int (value : Int64) : Holds .int (.int value)
  | float (value : Float) : Holds .float (.float value)
  | string (value : String) : Holds .string (.string value)
  | datetime (value : Calendar.Moment) : Holds .datetime (.datetime value)
  | timespan (value : Calendar.Duration) : Holds .timespan (.timespan value)
  | guid (value : Guid) : Holds .guid (.guid value)
  | enum {type : EnumType} {value : EnumValue} (agrees : type.agrees value.type = true)
      (declared : value.value ∈ type.members.map Prod.snd) : Holds (.enum type) (.enum value)
  | object (record : Record) : Holds (.object record.type) (.object record)

theorem EnumType.isSome_memberOf?_iff {type : EnumType} {value : Int64} :
    (type.memberOf? value).isSome = true ↔ value ∈ type.members.map Prod.snd := by
  rw [memberOf?, Option.isSome_map, List.find?_isSome, List.mem_map]
  simp only [beq_iff_eq]

namespace Ty

def object? : Ty → Option ObjectType
  | .object type => some type
  | .nullable inner => inner.object?
  | _ => none

theorem holds_of_admits {type : Ty} {value : Value} (admitted : type.admits value = true)
    (identified : ∀ nested record, type.object? = some nested → value = .object record →
      record.type.id = nested.id → record.type = nested) : type.Holds value := by
  cases type with
  | nullable inner =>
    rcases admits_nullable.mp admitted with rfl | admitted
    · exact .absent inner
    · exact .present (holds_of_admits admitted identified)
  | object nested =>
    cases value with
    | scalar value => cases value <;> cases admitted
    | object record =>
      rw [← identified nested record rfl rfl (beq_iff_eq.mp admitted)]
      exact .object record
  | enum type =>
    cases value with
    | object record => cases admitted
    | scalar value =>
      cases value with
      | enum value =>
        rw [admits, Bool.and_eq_true] at admitted
        exact .enum admitted.1 (EnumType.isSome_memberOf?_iff.mp admitted.2)
      | _ => cases admitted
  | _ =>
    cases value with
    | object record => cases admitted
    | scalar value =>
      cases value <;> cases admitted
      constructor

theorem admits_of_holds {type : Ty} {value : Value} (holds : type.Holds value) :
    type.admits value = true := by
  induction holds with
  | present holds induction => exact admits_nullable.mpr (.inr induction)
  | enum agrees declared =>
    rw [admits, Bool.and_eq_true]
    exact ⟨agrees, EnumType.isSome_memberOf?_iff.mpr declared⟩
  | object record => exact beq_self_eq_true _
  | _ => rfl

end Ty

/-! ## Records at any depth -/

/-- Whether a record has one value for each field of its type, in the order of the fields and of
their types, and whether the same is true of the records among its values. -/
inductive Record.WellTyped : Record → Prop where
  | intro {record : Record}
      (holds : List.Forall₂ (fun field value => Ty.Holds (Field.type field) value)
        record.type.fields record.values)
      (nested : ∀ inner, .object inner ∈ record.values → WellTyped inner) : WellTyped record

def Schema.IsWhole (schema : Schema) : Prop :=
  ∀ type ∈ schema.types, ∀ field ∈ type.fields, ∀ nested,
    field.type.object? = some nested → nested ∈ schema.types

theorem Record.Built.wellTyped {schema : Schema} (whole : schema.IsWhole) {record : Record}
    (built : record.Built schema) : record.WellTyped := by
  induction record using Record.induction with
  | step record induction =>
    rcases built.fits with ⟨known, fits⟩
    refine .intro (List.forall₂_iff_get.mpr ⟨fits.length_eq.symm, ?_⟩) fun inner member =>
      induction inner member (fits.nested member)
    intro slot insideFields insideValues
    have hasField := List.getElem?_eq_getElem insideFields
    have hasValue := List.getElem?_eq_getElem insideValues
    apply Ty.holds_of_admits (fits.admits hasField hasValue)
    intro nested inner isMadeOf isObject sameId
    have innerBuilt := fits.nested (isObject ▸ List.mem_of_getElem? hasValue)
    exact schema.identified _ innerBuilt.fits.1 _
      (whole _ known _ (List.mem_of_getElem? hasField) _ isMadeOf) sameId

/-! ## Data of records -/

/-- Whether data stands for a value of a type. An object does so for a record if all of its keys are
fields, its values stand for values of those, and every field that cannot be null has a key. -/
inductive Json.StandsFor : Json → Ty → Prop where
  | null {type : Ty} (nullable : type.isNullable = true) : StandsFor .null type
  | single {json : Json} {type : Ty} {value : Scalar}
      (read : Scalar.ofJson? type.underlying json = some (.ok value))
      (holds : type.Holds (.scalar value)) : StandsFor json type
  | object {entries : List (String × Json)} {type : Ty} {nested : ObjectType}
      (isObject : type.underlying = .object nested)
      (known : ∀ key ∈ entries.map Prod.fst, key ∈ nested.fields.map (·.name))
      (values : ∀ key json, (key, json) ∈ entries → ∀ field ∈ nested.fields, field.name = key →
        StandsFor json field.type)
      (required : ∀ field ∈ nested.fields, field.type.isNullable = false →
        field.name ∈ entries.map Prod.fst) :
      StandsFor (.object entries) type

/-! ## Reading entries -/

def Field.Reads (field : Field) (json : Json) (value : Value) : Prop :=
  field.ofJson json = .ok value ∧ field.type.admits (value.widenTo field.type) = true

def ObjectType.ReadsEntry (type : ObjectType) (entry : String × Json) (set : String × Value) : Prop :=
  set.1 = entry.1 ∧
    ∃ slot field, type.field? entry.1 = some (slot, field) ∧ field.Reads entry.2 set.2

theorem setEntry_eq_ok {draft next : RecordDraft} {entry : String × Json} :
    setEntry draft entry = .ok next ↔
      ∃ slot field value, draft.type.field? entry.1 = some (slot, field) ∧
        field.ofJson entry.2 = .ok value ∧ draft.set entry.1 value = .ok next := by
  rcases entry with ⟨key, json⟩
  cases found : draft.type.field? key with
  | none =>
    unfold setEntry
    split
    case h_1 => simp
    case h_2 found' => cases found.symm.trans found'
  | some place =>
    rcases place with ⟨slot, field⟩
    rw [setEntry_eq found, bind_eq_ok]
    simp only [mapError_eq_ok]
    constructor
    · rintro ⟨value, read, isSet⟩
      exact ⟨slot, field, value, rfl, read, isSet⟩
    · rintro ⟨_, _, value, ⟨⟩, read, isSet⟩
      exact ⟨value, read, isSet⟩

namespace Record

theorem type_of_setEntries {draft next : RecordDraft} {entries : List (String × Json)}
    (isSet : setEntries draft entries = .ok next) : next.type = draft.type := by
  induction entries generalizing draft with
  | nil =>
    cases isSet
    rfl
  | cons entry rest induction =>
    rw [setEntries, bind_eq_ok] at isSet
    rcases isSet with ⟨middle, first, isSet⟩
    rcases setEntry_eq_ok.mp first with ⟨_, _, _, _, _, first⟩
    exact (induction isSet).trans (RecordDraft.type_of_set first)

theorem type_of_ofJson {type : ObjectType} {json : Json} {record : Record}
    (read : ofJson type json = .ok record) : record.type = type := by
  cases json with
  | object entries =>
    rw [ofJson, bind_eq_ok] at read
    rcases read with ⟨draft, isSet, built⟩
    rcases map_eq_ok.mp built with ⟨values, -, rfl⟩
    exact type_of_setEntries isSet
  | _ => cases read

end Record

theorem Json.standsFor_of_underlying {json : Json} {type : Ty} {nested : ObjectType}
    (isObject : type.underlying = .object nested) (stands : json.StandsFor (.object nested)) :
    json.StandsFor type := by
  cases stands with
  | null nullable => cases nullable
  | single read holds => cases read
  | object same known values required =>
    cases same
    exact .object isObject known values required

theorem Scalar.widenTo_of_ofJson? {type : Ty} {json : Json} {value : Scalar}
    (read : ofJson? type.underlying json = some (.ok value)) :
    (Value.scalar value).widenTo type = .scalar value := by
  unfold Value.widenTo
  split
  case h_1 number isFloat isInt =>
    cases isInt
    rw [isFloat, ofJson?] at read
    cases isNumber : json.number? <;> rw [isNumber] at read <;> cases read
  case h_2 => rfl

theorem Scalar.ofJson_eq_ok {type : Ty} {json : Json} {value : Scalar}
    (present : json.isNull = false) :
    ofJson type json = .ok value ↔ ofJson? type.underlying json = some (.ok value) := by
  rw [ofJson, if_neg (Bool.eq_false_iff.mp present)]
  cases ofJson? type.underlying json with
  | none => simp
  | some outcome => rw [Option.getD_some, Option.some.injEq]

namespace Field

variable {field : Field} {json : Json}

theorem standsFor_of_reads {value : Value}
    (nestedStands : ∀ nested record, field.type.underlying = .object nested →
      Record.ofJson nested json = .ok record → json.StandsFor (.object nested))
    (reads : field.Reads json value) : json.StandsFor field.type := by
  rcases reads with ⟨read, admitted⟩
  cases isNull : json.isNull with
  | true =>
    cases json with
    | null =>
      cases field.ofJson_null.symm.trans read
      rw [Value.widenTo_null] at admitted
      exact .null (Ty.isNullable_of_admits_null admitted)
    | _ => cases isNull
  | false =>
    rw [ofJson] at read
    split at read
    case h_1 nested isObject =>
      rw [if_neg (Bool.eq_false_iff.mp isNull), map_eq_ok] at read
      rcases read with ⟨record, read, -⟩
      exact Json.standsFor_of_underlying isObject (nestedStands nested record isObject read)
    case h_2 =>
      rcases map_eq_ok.mp read with ⟨scalar, isScalar, rfl⟩
      rw [Scalar.ofJson_eq_ok isNull] at isScalar
      rw [Scalar.widenTo_of_ofJson? isScalar] at admitted
      refine .single isScalar (Ty.holds_of_admits admitted ?_)
      intro nested record _ isObject
      cases isObject

theorem exists_reads_of_standsFor
    (nestedRead : ∀ nested, field.type.underlying = .object nested →
      json.StandsFor (.object nested) → ∃ record, Record.ofJson nested json = .ok record)
    (stands : json.StandsFor field.type) : ∃ value, field.Reads json value := by
  cases stands with
  | null nullable =>
    refine ⟨.null, field.ofJson_null, ?_⟩
    rw [Value.widenTo_null]
    exact Ty.admits_null nullable
  | single read holds =>
    refine ⟨_, Field.ofJson_scalar read, ?_⟩
    rw [Scalar.widenTo_of_ofJson? read]
    exact Ty.admits_of_holds holds
  | @object entries _ nested isObject known values required =>
    rcases nestedRead nested isObject (.object rfl known values required) with ⟨record, read⟩
    refine ⟨.object record, ?_, ?_⟩
    · simp only [ofJson, isObject, Json.isNull, read]
      rfl
    · rw [Value.widenTo_eq_object.mpr rfl]
      apply Ty.admits_of_underlying
      rw [isObject, Ty.admits, Record.type_of_ofJson read, beq_self_eq_true]

end Field

/-! ## Reading records -/

namespace RecordDraft

variable {type : ObjectType}

theorem setEntry_after (distinct : (type.fields.map (·.name)).Nodup)
    {sets : List (String × Value)} {entry : String × Json} {next : RecordDraft} :
    setEntry (after type sets) entry = .ok next ↔
      ∃ set, type.ReadsEntry entry set ∧ next = after type (sets ++ [set]) := by
  rw [setEntry_eq_ok]
  constructor
  · rintro ⟨slot, field, value, found, read, isSet⟩
    rcases (set_after distinct).mp isSet with ⟨⟨slot', field', found', admitted⟩, rfl⟩
    cases found.symm.trans found'
    exact ⟨(entry.1, value), ⟨rfl, slot, field, found, read, admitted⟩, rfl⟩
  · rintro ⟨⟨name, value⟩, ⟨rfl, slot, field, found, read, admitted⟩, rfl⟩
    exact ⟨slot, field, value, found, read,
      (set_after distinct).mpr ⟨⟨slot, field, found, admitted⟩, rfl⟩⟩

theorem setEntries_after (distinct : (type.fields.map (·.name)).Nodup)
    {before : List (String × Value)} {entries : List (String × Json)} {next : RecordDraft} :
    setEntries (after type before) entries = .ok next ↔
      ∃ sets, List.Forall₂ type.ReadsEntry entries sets ∧ next = after type (before ++ sets) := by
  induction entries generalizing before with
  | nil =>
    rw [setEntries, Except.ok.injEq, eq_comm]
    simp
  | cons entry rest induction =>
    rw [setEntries, bind_eq_ok]
    simp only [setEntry_after distinct, List.forall₂_cons_left_iff]
    constructor
    · rintro ⟨_, ⟨set, reads, rfl⟩, others⟩
      rcases induction.mp others with ⟨sets, readsRest, rfl⟩
      exact ⟨set :: sets, ⟨set, sets, reads, readsRest, rfl⟩, by simp⟩
    · rintro ⟨_, ⟨set, sets, reads, readsRest, rfl⟩, rfl⟩
      exact ⟨_, ⟨set, reads, rfl⟩, induction.mpr ⟨sets, readsRest, by simp⟩⟩

end RecordDraft

theorem ObjectType.exists_forall₂_readsEntry_iff {type : ObjectType}
    {entries : List (String × Json)} :
    (∃ sets, List.Forall₂ type.ReadsEntry entries sets) ↔
      ∀ entry ∈ entries, ∃ set, type.ReadsEntry entry set := by
  induction entries with
  | nil => simp
  | cons entry rest induction =>
    rw [List.forall_mem_cons, ← induction]
    constructor
    · rintro ⟨_, _ | ⟨reads, readsRest⟩⟩
      exact ⟨⟨_, reads⟩, ⟨_, readsRest⟩⟩
    · rintro ⟨⟨set, reads⟩, ⟨sets, readsRest⟩⟩
      exact ⟨set :: sets, .cons reads readsRest⟩

theorem ObjectType.map_fst_of_readsEntry {type : ObjectType} {entries : List (String × Json)}
    {sets : List (String × Value)} (reads : List.Forall₂ type.ReadsEntry entries sets) :
    sets.map Prod.fst = entries.map Prod.fst := by
  induction reads with
  | nil => rfl
  | cons first _ induction => rw [List.map_cons, List.map_cons, first.1, induction]

theorem Json.induction {motive : Json → Prop}
    (step : ∀ json, (∀ entries key value, json = .object entries → (key, value) ∈ entries →
      motive value) → motive json)
    (json : Json) : motive json :=
  step json fun _ _ value _ _ => induction step value
termination_by sizeOf json
decreasing_by
  have inside := List.sizeOf_lt_of_mem ‹_›
  subst json
  simp only [Prod.mk.sizeOf_spec, object.sizeOf_spec] at inside ⊢
  omega

namespace Record

variable {schema : Schema} {type : ObjectType}

theorem exists_ofJson_object_iff (distinct : (type.fields.map (·.name)).Nodup)
    {entries : List (String × Json)} :
    (∃ record, ofJson type (.object entries) = .ok record) ↔
      (∀ entry ∈ entries, ∃ set, type.ReadsEntry entry set) ∧
        ∀ field ∈ type.fields, field.type.isNullable = false →
          field.name ∈ entries.map Prod.fst := by
  rw [← ObjectType.exists_forall₂_readsEntry_iff]
  simp only [ofJson, bind_eq_ok, ← RecordDraft.after_nil, RecordDraft.setEntries_after distinct,
    List.nil_append]
  constructor
  · rintro ⟨record, _, ⟨sets, reads, rfl⟩, built⟩
    rw [RecordDraft.build_after, ObjectType.map_fst_of_readsEntry reads] at built
    exact ⟨⟨sets, reads⟩, built.1⟩
  · rintro ⟨⟨sets, reads⟩, required⟩
    rw [← ObjectType.map_fst_of_readsEntry reads] at required
    exact ⟨_, _, ⟨sets, reads, rfl⟩, RecordDraft.build_after.mpr ⟨required, rfl⟩⟩

/-- Records are read from the data that stands for them, and from no other. -/
theorem exists_ofJson_iff (checked : schema.IsChecked) (known : type ∈ schema.types) (json : Json) :
    (∃ record, ofJson type json = .ok record) ↔ json.StandsFor (.object type) := by
  induction json using Json.induction generalizing type with
  | step json induction =>
    rcases checked _ known with ⟨draft, built⟩
    have distinct := ObjectTypeDraft.distinct_of_build built
    constructor
    · intro read
      cases json with
      | object entries =>
        rcases (exists_ofJson_object_iff distinct).mp read with ⟨reads, required⟩
        refine .object rfl ?_ ?_ required
        · intro key isKey
          rcases List.mem_map.mp isKey with ⟨entry, member, rfl⟩
          rcases reads entry member with ⟨set, -, slot, field, found, -⟩
          rw [← ObjectType.name_of_field? found]
          exact List.mem_map_of_mem (ObjectType.mem_of_field? found)
        · rintro _ json member field isField rfl
          rcases reads _ member with ⟨set, -, slot, other, found, isRead⟩
          rcases List.mem_iff_getElem?.mp isField with ⟨slot', hasField⟩
          cases (ObjectType.field?_of_getElem? distinct hasField).symm.trans found
          refine Field.standsFor_of_reads (fun nested record isObject read => ?_) isRead
          have nestedKnown := schema.closed _ known _ isField _ isObject
          exact (induction _ _ _ rfl member nestedKnown).mp ⟨record, read⟩
      | _ =>
        rcases read with ⟨record, read⟩
        cases read
    · intro stands
      cases stands with
      | null nullable => cases nullable
      | single read holds => cases read
      | object same fields values required =>
        cases same
        refine (exists_ofJson_object_iff distinct).mpr ⟨?_, required⟩
        rintro ⟨key, json⟩ member
        rcases List.mem_map.mp (fields key (List.mem_map_of_mem member)) with ⟨field, isField, rfl⟩
        rcases List.mem_iff_getElem?.mp isField with ⟨slot, hasField⟩
        have nestedRead (nested : ObjectType) (isObject : field.type.underlying = .object nested)
            (stands : json.StandsFor (.object nested)) :
            ∃ record, ofJson nested json = .ok record := by
          have nestedKnown := schema.closed _ known _ isField _ isObject
          exact (induction _ _ _ rfl member nestedKnown).mpr stands
        rcases Field.exists_reads_of_standsFor nestedRead (values _ _ member field isField rfl) with
          ⟨value, reads⟩
        exact ⟨(field.name, value), rfl, slot, field,
          ObjectType.field?_of_getElem? distinct hasField, reads⟩

end Record

/-! ## What a schema guarantees -/

namespace Schema

/-- Whether records over a schema are well typed however they come about, their fields are set
apart from each other, and their data is told from other data by what it stands for. -/
structure KeepsTypes (schema : Schema) : Prop where
  wellTyped (record : Record) : record.Built schema → record.WellTyped
  setsApart (type : ObjectType) : type ∈ schema.types → type.SetsApart
  exists_ofJson (type : ObjectType) (json : Json) : type ∈ schema.types →
    ((∃ record, Record.ofJson type json = .ok record) ↔ json.StandsFor (.object type))

theorem keepsTypes {schema : Schema} (checked : schema.IsChecked) (whole : schema.IsWhole) :
    schema.KeepsTypes := by
  constructor
  case wellTyped => exact fun record built => built.wellTyped whole
  case setsApart =>
    intro type known
    rcases checked type known with ⟨draft, built⟩
    exact ObjectType.setsApart_of_nodup (ObjectTypeDraft.distinct_of_build built)
  case exists_ofJson => exact fun type json known => Record.exists_ofJson_iff checked known json

theorem isWhole_stays : stays.IsWhole := by
  intro type known field member nested isMadeOf
  simp only [stays, List.mem_cons, List.not_mem_nil, or_false] at known
  rcases known with rfl | rfl
  · simp only [ObjectType.stay, List.mem_cons, List.not_mem_nil, or_false] at member
    rcases member with rfl | rfl | rfl <;> cases isMadeOf
    exact List.mem_cons_of_mem _ (List.mem_cons_self ..)
  · rcases List.mem_singleton.mp member with rfl
    cases isMadeOf

theorem keepsTypes_stays : stays.IsChecked ∧ stays.IsWhole ∧ stays.KeepsTypes :=
  ⟨isChecked_stays, isWhole_stays, keepsTypes isChecked_stays isWhole_stays⟩

end Schema

end Proviso
