import Proviso.Proofs.Outcome
import Proviso.Value.Json

/-!
Records as they are built: field by field or from JSON data, and from nested records that were
themselves built. Such a record has a value for every field of its type, and each value belongs
to the type of its field.
-/

namespace Proviso

open Outcome

/-- The object types in use: with a type also those of its fields, each with an identity of its
own. -/
structure Schema where
  types : List ObjectType
  closed : ∀ type ∈ types, ∀ field ∈ type.fields, ∀ nested,
    field.type.underlying = .object nested → nested ∈ types
  identified : ∀ first ∈ types, ∀ second ∈ types, first.id = second.id → first = second

namespace RecordDraft

def setAll (draft : RecordDraft) : List (String × Value) → Except SchemaFault RecordDraft
  | [] => .ok draft
  | (name, value) :: rest => do
    let draft ← draft.set name value
    setAll draft rest

end RecordDraft

/-- The records that can be built over a schema. -/
inductive Record.Built (schema : Schema) : Record → Prop where
  | ofFields {type : ObjectType} {fields : List (String × Value)} {record : Record}
      (known : type ∈ schema.types)
      (nested : ∀ name inner, (name, .object inner) ∈ fields → Built schema inner)
      (built : ((RecordDraft.empty type).setAll fields >>= RecordDraft.build) = .ok record) :
      Built schema record
  | ofJson {type : ObjectType} {json : Json} {record : Record} (known : type ∈ schema.types)
      (read : Record.ofJson type json = .ok record) : Built schema record

/-! ## Fields -/

namespace ObjectType

theorem fieldFrom?_eq_some {name : String} {start slot : Nat} {fields : List Field}
    {field : Field} (found : fieldFrom? name start fields = some (slot, field)) :
    ∃ index, slot = start + index ∧ fields[index]? = some field ∧ field.name = name := by
  induction fields generalizing start with
  | nil => cases found
  | cons first rest induction =>
    rw [fieldFrom?] at found
    split at found
    case isTrue isName =>
      rcases Prod.mk.inj (Option.some.inj found) with ⟨rfl, rfl⟩
      exact ⟨0, rfl, rfl, isName⟩
    case isFalse =>
      rcases induction found with ⟨index, rfl, atIndex, isName⟩
      exact ⟨index + 1, by omega, atIndex, isName⟩

theorem getElem?_of_field? {type : ObjectType} {name : String} {slot : Nat} {field : Field}
    (found : type.field? name = some (slot, field)) : type.fields[slot]? = some field := by
  rcases fieldFrom?_eq_some found with ⟨index, rfl, atIndex, _⟩
  rwa [Nat.zero_add]

theorem name_of_field? {type : ObjectType} {name : String} {slot : Nat} {field : Field}
    (found : type.field? name = some (slot, field)) : field.name = name := by
  rcases fieldFrom?_eq_some found with ⟨_, _, _, isName⟩
  exact isName

theorem mem_of_field? {type : ObjectType} {name : String} {slot : Nat} {field : Field}
    (found : type.field? name = some (slot, field)) : field ∈ type.fields :=
  List.mem_of_getElem? (getElem?_of_field? found)

end ObjectType

theorem Ty.admits_null {type : Ty} (nullable : type.isNullable = true) :
    type.admits .null = true := by
  cases type <;> first | rfl | cases nullable

/-! ## Drafts -/

@[simp] theorem Value.widenTo_eq_object {expected : Ty} {value : Value} {record : Record} :
    value.widenTo expected = .object record ↔ value = .object record := by
  unfold Value.widenTo
  split <;> simp_all

/-- What holds of a draft at any time: the values that are set belong to their fields, and the
records among them have a property. -/
structure RecordDraft.Fits (inner : Record → Prop) (draft : RecordDraft) : Prop where
  length_eq : draft.values.length = draft.type.fields.length
  admits {slot : Nat} {field : Field} {value : Value}
    (hasField : draft.type.fields[slot]? = some field)
    (hasValue : draft.values[slot]? = some (some value)) : field.type.admits value = true
  nested {record : Record} (member : some (.object record) ∈ draft.values) : inner record

structure Record.Fits (inner : Record → Prop) (record : Record) : Prop where
  length_eq : record.values.length = record.type.fields.length
  admits {slot : Nat} {field : Field} {value : Value}
    (hasField : record.type.fields[slot]? = some field)
    (hasValue : record.values[slot]? = some value) : field.type.admits value = true
  nested {nested : Record} (member : .object nested ∈ record.values) : inner nested

namespace RecordDraft

variable {inner : Record → Prop}

theorem fits_empty (type : ObjectType) : (empty type).Fits inner where
  length_eq := by simp [empty]
  admits hasField hasValue := by
    rw [empty, List.getElem?_map] at hasValue
    rcases Option.map_eq_some_iff.mp hasValue with ⟨_, _, unset⟩
    cases unset
  nested member := by simp [empty] at member

theorem type_of_set {draft next : RecordDraft} {name : String} {value : Value}
    (set : draft.set name value = .ok next) : next.type = draft.type := by
  simp only [RecordDraft.set] at set
  split at set
  case h_1 => cases set
  case h_2 =>
    split at set
    · cases set; rfl
    · cases set

theorem Fits.set {draft next : RecordDraft} {name : String} {value : Value}
    (fits : draft.Fits inner) (nested : ∀ record, value = .object record → inner record)
    (set : draft.set name value = .ok next) : next.Fits inner := by
  simp only [RecordDraft.set] at set
  split at set
  case h_1 => cases set
  case h_2 slot field found =>
    split at set
    case isFalse => cases set
    case isTrue admitted =>
      cases set
      constructor
      case length_eq => simpa using fits.length_eq
      case admits =>
        intro index field' value' hasField hasValue
        rw [List.getElem?_set] at hasValue
        split at hasValue
        case isTrue same =>
          subst same
          rw [ObjectType.getElem?_of_field? found] at hasField
          split at hasValue
          · simp_all
          · cases hasValue
        case isFalse => exact fits.admits hasField hasValue
      case nested =>
        intro record member
        rcases List.mem_or_eq_of_mem_set member with present | equal
        · exact fits.nested present
        · exact nested record (Value.widenTo_eq_object.mp (Option.some.inj equal).symm)

theorem Fits.setAll {draft next : RecordDraft} {fields : List (String × Value)}
    (fits : draft.Fits inner)
    (nested : ∀ name record, (name, .object record) ∈ fields → inner record)
    (set : draft.setAll fields = .ok next) : next.type = draft.type ∧ next.Fits inner := by
  induction fields generalizing draft with
  | nil =>
    cases set
    exact ⟨rfl, fits⟩
  | cons entry rest induction =>
    rcases entry with ⟨name, value⟩
    rcases bind_eq_ok.mp set with ⟨middle, first, set⟩
    have middleFits := fits.set (fun record equal => nested name record (by simp [equal])) first
    have later := induction middleFits
      (fun name record member => nested name record (List.mem_cons_of_mem _ member)) set
    exact ⟨later.1.trans (type_of_set first), later.2⟩

theorem length_of_complete {typeName : String} {fields : List Field}
    {values : List (Option Value)} {result : List Value}
    (sameLength : values.length = fields.length)
    (completed : complete typeName fields values = .ok result) : result.length = fields.length := by
  induction fields generalizing values result with
  | nil =>
    cases completed
    rfl
  | cons field fields induction =>
    match values, sameLength with
    | some value :: values, sameLength =>
      rcases map_eq_ok.mp completed with ⟨rest, restCompleted, rfl⟩
      simpa using induction (by simpa using sameLength) restCompleted
    | none :: values, sameLength =>
      simp only [complete] at completed
      split at completed
      · rcases map_eq_ok.mp completed with ⟨rest, restCompleted, rfl⟩
        simpa using induction (by simpa using sameLength) restCompleted
      · cases completed

theorem set_or_null_of_complete {typeName : String} {fields : List Field}
    {values : List (Option Value)} {result : List Value} {slot : Nat} {field : Field}
    {value : Value} (completed : complete typeName fields values = .ok result)
    (hasField : fields[slot]? = some field) (hasValue : result[slot]? = some value) :
    values[slot]? = some (some value) ∨ value = .null ∧ field.type.isNullable = true := by
  induction fields generalizing values result slot with
  | nil => cases hasField
  | cons first fields induction =>
    match values with
    | [] =>
      cases completed
      cases hasValue
    | some present :: values =>
      rcases map_eq_ok.mp completed with ⟨rest, restCompleted, rfl⟩
      cases slot with
      | zero => exact .inl (by simpa using hasValue)
      | succ slot => simpa using induction restCompleted hasField hasValue
    | none :: values =>
      simp only [complete] at completed
      split at completed
      case isFalse => cases completed
      case isTrue nullable =>
        rcases map_eq_ok.mp completed with ⟨rest, restCompleted, rfl⟩
        cases slot with
        | zero =>
          have isFirst : first = field := by simpa using hasField
          subst isFirst
          exact .inr ⟨by simpa [eq_comm] using hasValue, nullable⟩
        | succ slot => simpa using induction restCompleted hasField hasValue

theorem Fits.build {draft : RecordDraft} {record : Record} (fits : draft.Fits inner)
    (built : draft.build = .ok record) : record.type = draft.type ∧ record.Fits inner := by
  rcases map_eq_ok.mp built with ⟨values, completed, rfl⟩
  refine ⟨rfl, length_of_complete fits.length_eq completed, ?_, ?_⟩
  · intro slot field value hasField hasValue
    rcases set_or_null_of_complete completed hasField hasValue with present | ⟨rfl, nullable⟩
    · exact fits.admits hasField present
    · exact Ty.admits_null nullable
  · intro nested member
    rcases List.mem_iff_getElem.mp member with ⟨slot, inside, hasValue⟩
    have hasValue := List.getElem?_eq_some_iff.mpr ⟨inside, hasValue⟩
    have slotLt : slot < draft.type.fields.length :=
      length_of_complete fits.length_eq completed ▸ inside
    rcases set_or_null_of_complete completed (List.getElem?_eq_getElem slotLt) hasValue with
      present | ⟨equal, -⟩
    · exact fits.nested (List.mem_of_getElem? present)
    · cases equal

end RecordDraft

/-! ## Built records -/

namespace Record

variable {schema : Schema}

theorem fits_setEntry {draft next : RecordDraft} {entry : String × Json}
    (known : draft.type ∈ schema.types) (fits : draft.Fits (Record.Built schema))
    (set : setEntry draft entry = .ok next) :
    next.type = draft.type ∧ next.Fits (Record.Built schema) := by
  rcases entry with ⟨key, json⟩
  simp only [setEntry] at set
  split at set
  case h_1 => cases set
  case h_2 slot field found =>
    rcases bind_eq_ok.mp set with ⟨value, read, set⟩
    refine ⟨RecordDraft.type_of_set set, fits.set ?_ set⟩
    rintro record rfl
    rw [mapError_eq_ok] at read
    split at read
    case h_1 nested isObject =>
      split at read
      case isTrue => cases read
      case isFalse =>
        rcases map_eq_ok.mp read with ⟨record, read, equal⟩
        cases equal
        exact .ofJson (schema.closed _ known _ (ObjectType.mem_of_field? found) _ isObject) read
    case h_2 =>
      rcases map_eq_ok.mp read with ⟨scalar, _, equal⟩
      cases equal

theorem fits_setEntries {draft next : RecordDraft} {entries : List (String × Json)}
    (known : draft.type ∈ schema.types) (fits : draft.Fits (Record.Built schema))
    (set : setEntries draft entries = .ok next) :
    next.type = draft.type ∧ next.Fits (Record.Built schema) := by
  induction entries generalizing draft with
  | nil =>
    cases set
    exact ⟨rfl, fits⟩
  | cons entry rest induction =>
    simp only [setEntries] at set
    rcases bind_eq_ok.mp set with ⟨middle, first, set⟩
    have middleFits := fits_setEntry known fits first
    have later := induction (middleFits.1 ▸ known) middleFits.2 set
    exact ⟨later.1.trans middleFits.1, later.2⟩

/-- A built record is of a type in use, has a value for every field, all of them of the types of
their fields, and the records among them are built as well. -/
theorem Built.fits {record : Record} (built : record.Built schema) :
    record.type ∈ schema.types ∧ record.Fits (Record.Built schema) := by
  cases built with
  | @ofFields type fields _ known nested built =>
    rcases bind_eq_ok.mp built with ⟨draft, set, built⟩
    have draftFits := (RecordDraft.fits_empty type).setAll nested set
    have recordFits := draftFits.2.build built
    exact ⟨recordFits.1.trans draftFits.1 ▸ known, recordFits.2⟩
  | @ofJson type json _ known read =>
    cases json with
    | object entries =>
      simp only [Record.ofJson] at read
      rcases bind_eq_ok.mp read with ⟨draft, set, built⟩
      have draftFits := fits_setEntries known (RecordDraft.fits_empty type) set
      have recordFits := draftFits.2.build built
      exact ⟨recordFits.1.trans draftFits.1 ▸ known, recordFits.2⟩
    | _ => cases read

end Record

/-! ## A schema of people -/

namespace ObjectType

def address : ObjectType :=
  ⟨1, "Address", [⟨"City", .string, none⟩], []⟩

def person : ObjectType :=
  ⟨2, "Person", [⟨"Age", .int, none⟩, ⟨"Name", .string, none⟩,
    ⟨"Home", .nullable (.object address), none⟩], []⟩

end ObjectType

def Schema.people : Schema where
  types := [.person, .address]
  closed := by
    simp only [List.mem_cons, List.not_mem_nil, or_false]
    rintro type (rfl | rfl) field member nested isObject
    · simp only [ObjectType.person, List.mem_cons, List.not_mem_nil, or_false] at member
      rcases member with rfl | rfl | rfl <;> cases isObject
      exact .inr rfl
    · rcases List.mem_singleton.mp member with rfl
      cases isObject
  identified := by
    simp only [List.mem_cons, List.not_mem_nil, or_false]
    rintro first (rfl | rfl) second (rfl | rfl) sameId <;> first | rfl | cases sameId

def Record.homeless (age : Int64) (name : String) : Record :=
  ⟨.person, [.int age, .string name, .null]⟩

theorem Record.built_homeless (age : Int64) (name : String) :
    (Record.homeless age name).Built Schema.people := by
  have built : ((RecordDraft.empty .person).setAll [("Age", .int age), ("Name", .string name)] >>=
      RecordDraft.build) = .ok (Record.homeless age name) := rfl
  exact .ofFields (List.mem_cons_self ..) (by simp) built

def Record.housed (age : Int64) (name city : String) : Record :=
  ⟨.person, [.int age, .string name, .object ⟨.address, [.string city]⟩]⟩

theorem Record.built_housed (age : Int64) (name city : String) :
    (Record.housed age name city).Built Schema.people := by
  have address : Record.Built .people ⟨.address, [.string city]⟩ := by
    have built : ((RecordDraft.empty .address).setAll [("City", .string city)] >>=
        RecordDraft.build) = .ok ⟨.address, [.string city]⟩ := rfl
    exact .ofFields (List.mem_cons_of_mem _ (List.mem_singleton_self _)) (by simp) built
  have built : ((RecordDraft.empty .person).setAll [("Age", .int age), ("Name", .string name),
      ("Home", .object ⟨.address, [.string city]⟩)] >>= RecordDraft.build) =
        .ok (Record.housed age name city) := rfl
  refine .ofFields (List.mem_cons_self ..) (fun field inner member => ?_) built
  have isAddress : field = "Home" ∧ inner = ⟨.address, [.string city]⟩ := by
    simpa using member
  exact isAddress.2 ▸ address

end Proviso
