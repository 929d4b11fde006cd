import Mathlib.Data.List.Nodup
import Proviso.Proofs.Function.Arguments
import Proviso.Proofs.Record.Path
import Proviso.Proofs.Value.Reading
import Proviso.Schema.Draft

/-!
Records read back from their data. Every entry is read as a value that agrees with the one it was
written from, so a draft agrees with the record in the fields that were set, whatever the order in
which the entries come; in the end these are all fields.
-/

namespace Proviso

open Outcome

/-! ## Checked types -/

def Schema.IsChecked (schema : Schema) : Prop :=
  ∀ type ∈ schema.types, ∃ draft : ObjectTypeDraft, draft.build type.id = .ok type

namespace ObjectTypeDraft

theorem distinct_of_checkFields {typeName : String} {before : List String} {fields : List Field}
    (checked : checkFields typeName before fields = .ok ()) :
    (fields.map (·.name)).Nodup ∧ ∀ name ∈ before, name ∉ fields.map (·.name) := by
  induction fields generalizing before with
  | nil => exact ⟨List.nodup_nil, fun _ _ => List.not_mem_nil⟩
  | cons field rest induction =>
    rw [checkFields] at checked
    split at checked
    case isTrue => cases checked
    case isFalse =>
      split at checked
      case isTrue => cases checked
      case isFalse fresh =>
        have later := induction checked
        rw [List.contains_iff_mem] at fresh
        rw [List.map_cons, List.nodup_cons]
        refine ⟨⟨later.2 _ (List.mem_cons_self ..), later.1⟩, fun name earlier => ?_⟩
        rw [List.mem_cons, not_or]
        exact ⟨fun equal => fresh (equal ▸ earlier), later.2 _ (List.mem_cons_of_mem _ earlier)⟩

theorem checkFields_of_build {draft : ObjectTypeDraft} {id : Nat} {type : ObjectType}
    (built : draft.build id = .ok type) : checkFields draft.name [] type.fields = .ok () := by
  rcases bind_eq_ok.mp built with ⟨_, checked, built⟩
  rcases bind_eq_ok.mp built with ⟨constants, _, built⟩
  rw [pure_eq_ok] at built
  subst built
  exact checked

theorem distinct_of_build {draft : ObjectTypeDraft} {id : Nat} {type : ObjectType}
    (built : draft.build id = .ok type) : (type.fields.map (·.name)).Nodup :=
  (distinct_of_checkFields (checkFields_of_build built)).1

end ObjectTypeDraft

namespace ObjectType

theorem fieldFrom?_of_getElem? {fields : List Field} (distinct : (fields.map (·.name)).Nodup)
    {slot : Nat} {field : Field} (atSlot : fields[slot]? = some field) (start : Nat) :
    fieldFrom? field.name start fields = some (start + slot, field) := by
  induction fields generalizing start slot with
  | nil => cases atSlot
  | cons first rest induction =>
    rw [List.map_cons, List.nodup_cons] at distinct
    cases slot with
    | zero =>
      cases atSlot
      rw [fieldFrom?, if_pos rfl, Nat.add_zero]
    | succ slot =>
      rw [List.getElem?_cons_succ] at atSlot
      have different : first.name ≠ field.name := fun equal =>
        distinct.1 (equal ▸ List.mem_map_of_mem (List.mem_of_getElem? atSlot))
      rw [fieldFrom?, if_neg different, induction distinct.2 atSlot, Nat.add_assoc,
        Nat.add_comm 1]

theorem field?_of_getElem? {type : ObjectType} (distinct : (type.fields.map (·.name)).Nodup)
    {slot : Nat} {field : Field} (atSlot : type.fields[slot]? = some field) :
    type.field? field.name = some (slot, field) := by
  rw [field?, fieldFrom?_of_getElem? distinct atSlot, Nat.zero_add]

/-! ## Fields and values at any depth -/

/-- The fields of a type and, at any depth, those of the object types of its fields. -/
inductive Contains : ObjectType → Field → Prop where
  | field {type : ObjectType} {field : Field} (member : field ∈ type.fields) :
      Contains type field
  | nested {type inner : ObjectType} {owner field : Field} (member : owner ∈ type.fields)
      (isObject : owner.type.underlying = .object inner) (inside : Contains inner field) :
      Contains type field

/-- Whether null is added at most once to the type of any field, at any depth. -/
def AddsNullOnce (type : ObjectType) : Prop :=
  ∀ field, type.Contains field → ∀ inner, field.type ≠ .nullable (.nullable inner)

end ObjectType

namespace Record

inductive Contains : Record → Scalar → Prop where
  | value {record : Record} {value : Scalar} (member : .scalar value ∈ record.values) :
      Contains record value
  | nested {record inner : Record} {value : Scalar} (member : .object inner ∈ record.values)
      (inside : Contains inner value) : Contains record value

/-- Whether all single values in a record are told apart by their data. -/
def IsExact (record : Record) : Prop :=
  ∀ value, record.Contains value → value.IsExact

theorem induction {motive : Record → Prop}
    (step : ∀ record, (∀ inner, .object inner ∈ record.values → motive inner) → motive record)
    (record : Record) : motive record :=
  step record fun inner _ => induction step inner
termination_by sizeOf record
decreasing_by
  rcases record with ⟨type, values⟩
  have inside := List.sizeOf_lt_of_mem ‹_›
  simp only [Value.object.sizeOf_spec, mk.sizeOf_spec] at inside ⊢
  omega

end Record

/-! ## Data in another order -/

/-- Whether the one piece of data becomes the other when the entries of its objects, at any depth,
are put in another order. -/
inductive Json.Rearranges : Json → Json → Prop where
  | same (json : Json) : Rearranges json json
  | object {entries others : List (String × Json)}
      (keys : (entries.map Prod.fst).Perm (others.map Prod.fst))
      (values : ∀ key value other, (key, value) ∈ entries → (key, other) ∈ others →
        Rearranges value other) :
      Rearranges (.object entries) (.object others)

theorem Json.rearranges_of_not_object {json other : Json} (rearranges : json.Rearranges other)
    (single : ∀ entries, json ≠ .object entries) : other = json := by
  cases rearranges with
  | same => rfl
  | object => exact absurd rfl (single _)

theorem Json.object_of_rearranges {entries : List (String × Json)} {json : Json}
    (distinct : (entries.map Prod.fst).Nodup) (rearranges : (Json.object entries).Rearranges json) :
    ∃ others, json = .object others ∧ (entries.map Prod.fst).Perm (others.map Prod.fst) ∧
      ∀ key value other, (key, value) ∈ entries → (key, other) ∈ others →
        value.Rearranges other := by
  cases rearranges with
  | same =>
    refine ⟨entries, rfl, List.Perm.refl _, fun key value other member otherMember => ?_⟩
    have equal := List.inj_on_of_nodup_map distinct member otherMember rfl
    exact (Prod.mk.inj equal).2 ▸ .same _
  | object keys values => exact ⟨_, rfl, keys, values⟩

theorem Scalar.toJson_ne_object (value : Scalar) (entries : List (String × Json)) :
    value.toJson ≠ .object entries := by
  cases value with
  | float value =>
    rw [toJson, Json.ofFloat]
    split <;> rintro ⟨⟩
  | _ => rintro ⟨⟩

theorem Record.toJson_eq (record : Record) :
    record.toJson = .object (entriesToJson record.type.fields record.values) := by
  rcases record with ⟨type, values⟩
  rw [toJson]

theorem entriesToJson_eq (fields : List Field) (values : List Value) :
    entriesToJson fields values =
      List.zipWith (fun field value => (field.name, value.toJson)) fields values := by
  induction fields generalizing values with
  | nil => cases values <;> simp [entriesToJson]
  | cons field fields induction =>
    cases values with
    | nil => rfl
    | cons value values => rw [entriesToJson, induction, List.zipWith_cons_cons]

/-! ## Reading one entry -/

def Field.ofJson (field : Field) (json : Json) : Except SchemaFault Value :=
  match field.type.underlying with
  | .object nested =>
    if json.isNull then .ok .null else (Record.ofJson nested json).map .object
  | _ => (Scalar.ofJson field.type json).map .scalar

theorem setEntry_eq {draft : RecordDraft} {key : String} {slot : Nat} {field : Field}
    (hasField : draft.type.field? key = some (slot, field)) (json : Json) :
    setEntry draft (key, json) =
      ((field.ofJson json).mapError (.inField key) >>= draft.set key) := by
  unfold setEntry
  split
  case h_1 unknown =>
    rw [hasField] at unknown
    cases unknown
  case h_2 found =>
    rw [hasField] at found
    cases found
    rfl

def Field.ReadsAs (field : Field) (json : Json) (value : Value) : Prop :=
  ∃ present, field.ofJson json = .ok present ∧ present.agrees value = true ∧
    field.type.admits present = true

theorem Scalar.ofJson?_null (type : Ty) : Scalar.ofJson? type .null = none := by
  cases type <;> rfl

theorem Field.ofJson_null (field : Field) : field.ofJson .null = .ok .null := by
  rw [ofJson]
  split <;> rfl

theorem Field.ofJson_scalar {field : Field} {json : Json} {read : Scalar}
    (isRead : Scalar.ofJson? field.type.underlying json = some (.ok read)) :
    field.ofJson json = .ok (.scalar read) := by
  have present : json.isNull = false := by
    cases json with
    | null =>
      rw [Scalar.ofJson?_null] at isRead
      cases isRead
    | _ => rfl
  rw [ofJson]
  split
  case h_1 isObject =>
    rw [isObject] at isRead
    cases isRead
  case h_2 =>
    rw [Scalar.ofJson, if_neg (Bool.eq_false_iff.mp present), isRead]
    rfl

theorem Ty.underlying_ne_nullable {type : Ty}
    (once : ∀ inner, type ≠ .nullable (.nullable inner)) (inner : Ty) :
    type.underlying ≠ .nullable inner := by
  cases type with
  | nullable outer => exact fun equal => once inner (congrArg Ty.nullable equal)
  | _ => nofun

theorem Field.readsAs_scalar {field : Field} {value : Scalar}
    (once : ∀ inner, field.type ≠ .nullable (.nullable inner))
    (admitted : field.type.admits (.scalar value) = true) (exact : value.IsExact) :
    field.ReadsAs value.toJson (.scalar value) := by
  by_cases isNull : value = .null
  case pos =>
    subst isNull
    exact ⟨.null, field.ofJson_null, rfl, admitted⟩
  case neg =>
    have inner := Ty.admits_underlying admitted fun equal => isNull (Value.scalar.inj equal)
    have plain : field.type.underlying.isNullable = false := by
      cases isType : field.type.underlying with
      | nullable inner => exact absurd isType (Ty.underlying_ne_nullable once inner)
      | null =>
        rw [isType] at inner
        cases value <;> first | exact absurd rfl isNull | cases inner
      | _ => rfl
    rcases Scalar.ofJson?_toJson plain inner exact with ⟨read, isRead, agree, admits⟩
    exact ⟨.scalar read, Field.ofJson_scalar isRead, agree, Ty.admits_of_underlying admits⟩

theorem Record.agrees_iff {first second : Record} :
    first.agrees second = true ↔
      first.type.id = second.type.id ∧ valuesAgree first.values second.values = true := by
  rcases first with ⟨type, values⟩
  rcases second with ⟨other, others⟩
  rw [agrees, Bool.and_eq_true, beq_iff_eq]

theorem Ty.exists_object_of_admits {type : Ty} {record : Record}
    (once : ∀ inner, type ≠ .nullable (.nullable inner))
    (admitted : type.admits (.object record) = true) :
    ∃ nested, type.underlying = .object nested ∧ record.type.id = nested.id := by
  have inner := Ty.admits_underlying admitted nofun
  cases isType : type.underlying with
  | object nested =>
    rw [isType] at inner
    exact ⟨nested, rfl, beq_iff_eq.mp inner⟩
  | nullable inner => exact absurd isType (underlying_ne_nullable once inner)
  | _ =>
    rw [isType] at inner
    cases inner

theorem Field.readsAs_object {field : Field} {nested : ObjectType} {record read : Record}
    {json : Json} (isObject : field.type.underlying = .object nested)
    (isRead : Record.ofJson nested json = .ok read) (agree : read.agrees record = true)
    (sameId : record.type.id = nested.id) : field.ReadsAs json (.object record) := by
  have present : json.isNull = false := by
    cases json with
    | null => simp [Record.ofJson] at isRead
    | _ => rfl
  have sameType := (Record.agrees_iff.mp agree).1
  refine ⟨.object read, ?_, agree, Ty.admits_of_underlying ?_⟩
  · simp only [ofJson, isObject, if_neg (Bool.eq_false_iff.mp present), isRead]
    rfl
  · rw [isObject, Ty.admits, sameType, sameId, beq_self_eq_true]

/-! ## Drafts on the way -/

/-- Whether a draft has in some of the fields what agrees with a record. -/
structure RecordDraft.Agrees (draft : RecordDraft) (record : Record) (keys : List String) :
    Prop where
  type_eq : draft.type = record.type
  length_eq : draft.values.length = record.type.fields.length
  agrees {slot : Nat} {field : Field} {value : Value}
    (hasField : record.type.fields[slot]? = some field)
    (hasValue : record.values[slot]? = some value) (isSet : Field.name field ∈ keys) :
    ∃ present, draft.values[slot]? = some (some present) ∧ present.agrees value = true

def Record.ReadsEntry (record : Record) (entry : String × Json) : Prop :=
  ∃ (slot : Nat) (field : Field) (value : Value), record.type.fields[slot]? = some field ∧
    record.values[slot]? = some value ∧ entry.1 = field.name ∧
      field.ReadsAs entry.2 value

namespace RecordDraft

variable {record : Record}

theorem agrees_empty (record : Record) : (empty record.type).Agrees record [] where
  type_eq := rfl
  length_eq := List.length_map _
  agrees _ _ isSet := absurd isSet List.not_mem_nil

theorem Agrees.setEntry {draft : RecordDraft} {keys : List String} {entry : String × Json}
    (distinct : (record.type.fields.map (·.name)).Nodup) (agree : draft.Agrees record keys)
    (reads : record.ReadsEntry entry) :
    ∃ next, setEntry draft entry = .ok next ∧ next.Agrees record (entry.1 :: keys) := by
  rcases entry with ⟨key, json⟩
  rcases reads with
    ⟨slot, field, value, hasField, hasValue, isKey, present, read, same, admitted⟩
  change key = field.name at isKey
  subst isKey
  have inside : slot < draft.values.length :=
    agree.length_eq ▸ (List.getElem?_eq_some_iff.mp hasField).1
  have found : draft.type.field? field.name = some (slot, field) := by
    rw [agree.type_eq, ObjectType.field?_of_getElem? distinct hasField]
  refine ⟨{ draft with values := draft.values.set slot (some present) }, ?_, ?_⟩
  · rw [setEntry_eq found, read]
    change draft.set field.name present = _
    rw [set, found]
    simp only [Value.widenTo_of_admits admitted, if_pos admitted]
  · refine ⟨agree.type_eq, by simpa using agree.length_eq, ?_⟩
    intro other otherField otherValue hasOther hasOtherValue isSet
    by_cases equal : slot = other
    case pos =>
      subst equal
      cases hasValue.symm.trans hasOtherValue
      exact ⟨present, List.getElem?_set_self inside, same⟩
    case neg =>
      have otherKey : otherField.name ≠ field.name := by
        intro sameName
        have first := ObjectType.field?_of_getElem? distinct hasField
        have second := ObjectType.field?_of_getElem? distinct hasOther
        rw [sameName, first] at second
        exact equal (Prod.mk.inj (Option.some.inj second)).1
      rcases agree.agrees hasOther hasOtherValue ((List.mem_cons.mp isSet).resolve_left otherKey)
        with ⟨kept, isKept, agrees⟩
      exact ⟨kept, by rw [List.getElem?_set_ne equal, isKept], agrees⟩

theorem Agrees.setEntries {draft : RecordDraft} {keys : List String}
    {entries : List (String × Json)} (distinct : (record.type.fields.map (·.name)).Nodup)
    (agree : draft.Agrees record keys) (reads : ∀ entry ∈ entries, record.ReadsEntry entry) :
    ∃ next, setEntries draft entries = .ok next ∧
      next.Agrees record (entries.reverse.map Prod.fst ++ keys) := by
  induction entries generalizing draft keys with
  | nil => exact ⟨draft, by rw [Proviso.setEntries], agree⟩
  | cons entry rest induction =>
    rcases agree.setEntry distinct (reads _ (List.mem_cons_self ..)) with ⟨middle, set, agrees⟩
    rcases induction agrees fun other member => reads other (List.mem_cons_of_mem _ member) with
      ⟨next, setRest, agrees⟩
    refine ⟨next, ?_, ?_⟩
    · rw [Proviso.setEntries, set]
      exact setRest
    · rwa [List.reverse_cons, List.map_append, List.append_assoc]

theorem exists_complete (typeName : String) {fields : List Field} {drafted : List (Option Value)}
    {values : List Value} (length : values.length = fields.length)
    (draftLength : drafted.length = fields.length)
    (agree : ∀ (slot : Nat) (value : Value), values[slot]? = some value →
      ∃ present, drafted[slot]? = some (some present) ∧ Value.agrees present value = true) :
    ∃ completed, complete typeName fields drafted = .ok completed ∧
      valuesAgree completed values = true := by
  induction fields generalizing drafted values with
  | nil =>
    rcases List.length_eq_zero_iff.mp length with rfl
    exact ⟨[], by cases drafted <;> rfl, rfl⟩
  | cons field fields induction =>
    match values, drafted with
    | value :: values, first :: drafted =>
      rcases agree 0 value rfl with ⟨present, isFirst, same⟩
      cases isFirst
      rcases induction (Nat.succ.inj length) (Nat.succ.inj draftLength)
        (fun slot value hasValue => agree (slot + 1) value hasValue) with
        ⟨completed, isComplete, rest⟩
      refine ⟨present :: completed, ?_, ?_⟩
      · rw [complete, isComplete]
        rfl
      · rw [valuesAgree, same, rest, Bool.and_self]
    | [], _ => cases length
    | _, [] => cases draftLength

end RecordDraft

/-! ## Whole records -/

namespace Record

variable {schema : Schema} {record : Record}

theorem exists_ofJson_of_readsEntry {entries : List (String × Json)}
    (distinct : (record.type.fields.map (·.name)).Nodup)
    (length : record.values.length = record.type.fields.length)
    (reads : ∀ entry ∈ entries, record.ReadsEntry entry)
    (all : ∀ field ∈ record.type.fields, field.name ∈ entries.map Prod.fst) :
    ∃ read, ofJson record.type (.object entries) = .ok read ∧ read.agrees record = true := by
  rcases (RecordDraft.agrees_empty record).setEntries distinct reads with ⟨draft, set, agree⟩
  have agreeing : ∀ (slot : Nat) (value : Value), record.values[slot]? = some value →
      ∃ present, draft.values[slot]? = some (some present) ∧
        Value.agrees present value = true := by
    intro slot value hasValue
    have inside : slot < record.type.fields.length :=
      length ▸ (List.getElem?_eq_some_iff.mp hasValue).1
    have isSet := all _ (List.getElem_mem inside)
    refine agree.agrees (List.getElem?_eq_getElem inside) hasValue ?_
    rwa [List.append_nil, List.map_reverse, List.mem_reverse]
  rcases RecordDraft.exists_complete record.type.name length agree.length_eq agreeing with
    ⟨completed, isComplete, same⟩
  refine ⟨⟨record.type, completed⟩, ?_, ?_⟩
  · rw [ofJson, set]
    change draft.build = _
    rw [RecordDraft.build, agree.type_eq, isComplete]
    rfl
  · exact agrees_iff.mpr ⟨rfl, same⟩

theorem exists_slot_of_mem_entries {fields : List Field} {values : List Value} {key : String}
    {json : Json} (member : (key, json) ∈ entriesToJson fields values) :
    ∃ (slot : Nat) (field : Field) (value : Value), fields[slot]? = some field ∧
      values[slot]? = some value ∧ key = field.name ∧ json = value.toJson := by
  rw [entriesToJson_eq] at member
  rcases List.mem_iff_getElem?.mp member with ⟨slot, atSlot⟩
  rcases List.getElem?_zipWith_eq_some.mp atSlot with ⟨field, value, hasField, hasValue, equal⟩
  rcases Prod.mk.inj equal with ⟨rfl, rfl⟩
  exact ⟨slot, field, value, hasField, hasValue, rfl, rfl⟩

theorem map_fst_entriesToJson {fields : List Field} {values : List Value}
    (length : values.length = fields.length) :
    (entriesToJson fields values).map Prod.fst = fields.map (·.name) := by
  induction fields generalizing values with
  | nil =>
    rcases List.length_eq_zero_iff.mp length with rfl
    rfl
  | cons field fields induction =>
    cases values with
    | nil => cases length
    | cons value values =>
      rw [entriesToJson, List.map_cons, List.map_cons, induction (Nat.succ.inj length)]

/-- A record is read back from its data, in whatever order that comes, as one that agrees with it:
null is added once to the types of its fields, and no single value loses a part in its data. -/
theorem exists_ofJson_toJson (checked : schema.IsChecked) (built : record.Built schema)
    (once : record.type.AddsNullOnce) (exact : record.IsExact) {json : Json}
    (rearranges : record.toJson.Rearranges json) :
    ∃ read, ofJson record.type json = .ok read ∧ read.agrees record = true := by
  induction record using Record.induction generalizing json with
  | step record induction =>
    rcases checked _ built.fits.1 with ⟨draft, isChecked⟩
    have distinct := ObjectTypeDraft.distinct_of_build isChecked
    have length := built.fits.2.length_eq
    have keys := map_fst_entriesToJson length
    rw [toJson_eq] at rearranges
    rcases Json.object_of_rearranges (keys ▸ distinct) rearranges with
      ⟨others, rfl, perm, rearranged⟩
    refine exists_ofJson_of_readsEntry distinct length ?_ ?_
    · rintro ⟨key, other⟩ member
      have isKey := perm.mem_iff.mpr (List.mem_map_of_mem member)
      rcases List.mem_map.mp isKey with ⟨⟨_, written⟩, isWritten, rfl⟩
      have same := rearranged _ _ _ isWritten member
      rcases exists_slot_of_mem_entries isWritten with
        ⟨slot, field, value, hasField, hasValue, isName, rfl⟩
      refine ⟨slot, field, value, hasField, hasValue, isName, ?_⟩
      have fieldMember := List.mem_of_getElem? hasField
      have valueMember := List.mem_of_getElem? hasValue
      have fieldOnce := once _ (.field fieldMember)
      have admitted := built.fits.2.admits hasField hasValue
      cases value with
      | scalar value =>
        rw [Json.rearranges_of_not_object same value.toJson_ne_object]
        exact Field.readsAs_scalar fieldOnce admitted (exact _ (.value valueMember))
      | object inner =>
        have innerBuilt := built.fits.2.nested valueMember
        rcases Ty.exists_object_of_admits fieldOnce admitted with ⟨nested, isObject, sameId⟩
        have nestedKnown := schema.closed _ built.fits.1 _ fieldMember _ isObject
        rcases schema.identified _ innerBuilt.fits.1 _ nestedKnown sameId with rfl
        have innerOnce : inner.type.AddsNullOnce := fun other inside =>
          once other (.nested fieldMember isObject inside)
        have innerExact : inner.IsExact :=
          fun other inside => exact other (.nested valueMember inside)
        rcases induction inner valueMember innerBuilt innerOnce innerExact same with
          ⟨read, isRead, agree⟩
        exact Field.readsAs_object isObject isRead agree rfl
    · intro field member
      rw [← perm.mem_iff, keys]
      exact List.mem_map_of_mem member

end Record

/-! ## A schema of stays -/

def ObjectType.stay : ObjectType :=
  ⟨3, "Stay", [⟨"Arrival", .datetime, none⟩, ⟨"Length", .nullable .timespan, none⟩,
    ⟨"At", .object .address, none⟩], []⟩

def Schema.stays : Schema where
  types := [.stay, .address]
  closed := by
    simp only [List.mem_cons, List.not_mem_nil, or_false]
    rintro type (rfl | rfl) field member nested isObject
    · simp only [ObjectType.stay, List.mem_cons, List.not_mem_nil, or_false] at member
      rcases member with rfl | rfl | rfl <;> cases isObject
      exact .inr rfl
    · rcases List.mem_singleton.mp member with rfl
      cases isObject
  identified := by
    simp only [List.mem_cons, List.not_mem_nil, or_false]
    rintro first (rfl | rfl) second (rfl | rfl) sameId <;> first | rfl | cases sameId

theorem Schema.isChecked_stays : Schema.stays.IsChecked := by
  intro type member
  simp only [Schema.stays, List.mem_cons, List.not_mem_nil, or_false] at member
  rcases member with rfl | rfl
  · exact ⟨⟨"Stay", ObjectType.stay.fields, []⟩, rfl⟩
  · exact ⟨⟨"Address", ObjectType.address.fields, []⟩, rfl⟩

theorem ObjectType.addsNullOnce_stay : ObjectType.stay.AddsNullOnce := by
  intro field contained
  cases contained with
  | field member =>
    simp only [stay, List.mem_cons, List.not_mem_nil, or_false] at member
    rcases member with rfl | rfl | rfl <;> nofun
  | nested member isObject inside =>
    simp only [stay, List.mem_cons, List.not_mem_nil, or_false] at member
    rcases member with rfl | rfl | rfl <;> cases isObject
    cases inside with
    | field member =>
      rcases List.mem_singleton.mp member with rfl
      nofun
    | nested member isObject =>
      rcases List.mem_singleton.mp member with rfl
      cases isObject

namespace Record

def roman : Record :=
  ⟨.stay, [.datetime ⟨⟨-44, 3, 15, by decide⟩, 10, 30, 0, 0, by decide⟩,
    .timespan ⟨-90061000000000, by decide⟩, .object ⟨.address, [.string "Rome"]⟩]⟩

theorem built_roman : roman.Built Schema.stays := by
  have addressSet : ((RecordDraft.empty .address).setAll [("City", .string "Rome")] >>=
      RecordDraft.build) = .ok ⟨.address, [.string "Rome"]⟩ := rfl
  have address : Built Schema.stays ⟨.address, [.string "Rome"]⟩ :=
    .ofFields (List.mem_cons_of_mem _ (List.mem_cons_self ..)) (by simp) addressSet
  have set : ((RecordDraft.empty .stay).setAll
      [("At", .object ⟨.address, [.string "Rome"]⟩),
        ("Arrival", .datetime ⟨⟨-44, 3, 15, by decide⟩, 10, 30, 0, 0, by decide⟩),
        ("Length", .timespan ⟨-90061000000000, by decide⟩)] >>= RecordDraft.build) =
      .ok roman := rfl
  refine .ofFields (List.mem_cons_self ..) (fun name inner member => ?_) set
  simp only [List.mem_cons, List.not_mem_nil, or_false, Prod.mk.injEq, Value.object.injEq,
    reduceCtorEq, and_false] at member
  exact member.2 ▸ address

theorem isExact_roman : roman.IsExact := by
  intro value contained
  cases contained with
  | value member =>
    simp only [roman, List.mem_cons, List.not_mem_nil, or_false, Value.scalar.injEq,
      reduceCtorEq] at member
    rcases member with rfl | rfl
    · rfl
    · rfl
  | nested member inside =>
    simp only [roman, List.mem_cons, List.not_mem_nil, or_false, Value.object.injEq,
      reduceCtorEq, false_or] at member
    subst member
    cases inside with
    | value member =>
      rcases Value.scalar.inj (List.mem_singleton.mp member) with rfl
      trivial
    | nested member => cases List.mem_singleton.mp member

/-- The data of the stay, with its entries in the order of their keys. -/
def romanJson : Json :=
  .object [("Arrival", .string "-0044-03-15 10:30:00"),
    ("At", .object [("City", .string "Rome")]), ("Length", .string "-1.01:01:01")]

theorem rearranges_roman : roman.toJson.Rearranges romanJson := by
  have arrival : Calendar.Moment.text ⟨⟨-44, 3, 15, by decide⟩, 10, 30, 0, 0, by decide⟩ =
      "-0044-03-15 10:30:00" := by decide +kernel
  have length : Calendar.Duration.text ⟨-90061000000000, by decide⟩ = "-1.01:01:01" := by
    decide +kernel
  have written : roman.toJson = .object [("Arrival", .string "-0044-03-15 10:30:00"),
      ("Length", .string "-1.01:01:01"), ("At", .object [("City", .string "Rome")])] := by
    rw [← arrival, ← length]
    rfl
  rw [written, romanJson]
  refine .object (by decide) fun key value other member otherMember => ?_
  simp only [List.mem_cons, List.not_mem_nil, or_false, Prod.mk.injEq] at member otherMember
  rcases member with ⟨rfl, rfl⟩ | ⟨rfl, rfl⟩ | ⟨rfl, rfl⟩ <;>
    rcases otherMember with ⟨same, rfl⟩ | ⟨same, rfl⟩ | ⟨same, rfl⟩ <;>
    first | exact .same _ | exact absurd same (by decide)

theorem exists_ofJson_roman :
    ∃ read, ofJson .stay romanJson = .ok read ∧ read.agrees roman = true :=
  exists_ofJson_toJson Schema.isChecked_stays built_roman ObjectType.addsNullOnce_stay
    isExact_roman rearranges_roman

end Record

end Proviso
