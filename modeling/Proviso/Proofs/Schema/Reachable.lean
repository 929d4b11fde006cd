import Proviso.Proofs.Record.Serialization
import Proviso.Proofs.Record.Walks
import Proviso.Proofs.Schema.Agreement
import Proviso.Schema.Path

/-!
The enumerations that the paths of a type end at. They are collected by a walk that opens object
types, with a stack of those still to be opened. A type is put there by the first field that leads
to it, so that it is opened once, however many fields lead to it; and as all of its fields are
visited then, nothing is lost by not opening it again.
-/

namespace Proviso

/-! ## Paths to fields -/

namespace ObjectTypeDraft

theorem dotless_of_checkFields {typeName : String} {before : List String} {fields : List Field}
    (checked : checkFields typeName before fields = .ok ()) {field : Field}
    (member : field ∈ fields) : '.' ∉ field.name.toList := by
  induction fields generalizing before with
  | nil => cases member
  | cons first rest induction =>
    rw [checkFields] at checked
    split at checked
    case isTrue => cases checked
    case isFalse valid =>
      split at checked
      case isTrue => cases checked
      case isFalse =>
        rcases List.mem_cons.mp member with rfl | later
        · intro dotted
          exact valid (by simp [dotted])
        · exact induction checked later

end ObjectTypeDraft

namespace ObjectType

variable {schema : Schema} {type : ObjectType} {field : Field}

theorem contains_of_fieldAt? {path : List String} (found : type.fieldAt? path = some field) :
    type.Contains field := by
  induction path generalizing type with
  | nil => cases found
  | cons segment rest induction =>
    cases rest with
    | nil =>
      rcases fieldAt?_singleton.mp found with ⟨slot, hasField⟩
      exact .field (mem_of_field? hasField)
    | cons next rest =>
      rcases fieldAt?_cons.mp found with ⟨slot, owner, nested, hasField, isObject, found⟩
      exact .nested (mem_of_field? hasField) isObject (induction found)

theorem exists_field?_of_mem (checked : schema.IsChecked) (known : type ∈ schema.types)
    (member : field ∈ type.fields) :
    '.' ∉ field.name.toList ∧ ∃ slot, type.field? field.name = some (slot, field) := by
  rcases checked type known with ⟨draft, built⟩
  rcases List.mem_iff_getElem?.mp member with ⟨slot, atSlot⟩
  have dotless :=
    ObjectTypeDraft.dotless_of_checkFields (ObjectTypeDraft.checkFields_of_build built) member
  have distinct := ObjectTypeDraft.distinct_of_build built
  exact ⟨dotless, slot, field?_of_getElem? distinct atSlot⟩

theorem Contains.exists_names (checked : schema.IsChecked) (contains : type.Contains field)
    (known : type ∈ schema.types) :
    ∃ names : List (List Char), names ≠ [] ∧ (∀ name ∈ names, '.' ∉ name) ∧
      type.fieldAt? (names.map String.ofList) = some field := by
  induction contains with
  | @field type field member =>
    rcases exists_field?_of_mem checked known member with ⟨dotless, slot, hasField⟩
    refine ⟨[field.name.toList], List.cons_ne_nil _ _, List.forall_mem_singleton.mpr dotless, ?_⟩
    rw [List.map_singleton, String.ofList_toList]
    exact fieldAt?_singleton.mpr ⟨slot, hasField⟩
  | @nested type inner owner field member isObject _ induction =>
    rcases exists_field?_of_mem checked known member with ⟨dotless, slot, hasOwner⟩
    rcases induction (schema.closed type known owner member inner isObject) with
      ⟨names, nonempty, areDotless, found⟩
    refine ⟨owner.name.toList :: names, List.cons_ne_nil _ _,
      List.forall_mem_cons.mpr ⟨dotless, areDotless⟩, ?_⟩
    rw [List.map_cons, String.ofList_toList, fieldAt?_through hasOwner isObject (by simpa)]
    exact found

theorem exists_path_iff_contains (checked : schema.IsChecked) (known : type ∈ schema.types) :
    (∃ path, type.fieldAt? (Text.segments path) = some field) ↔ type.Contains field := by
  constructor
  case mp =>
    rintro ⟨path, found⟩
    exact contains_of_fieldAt? found
  case mpr =>
    intro contains
    rcases contains.exists_names checked known with ⟨names, nonempty, dotless, found⟩
    refine ⟨String.ofList (['.'].intercalate names), ?_⟩
    rw [Text.segments, String.toList_ofList, Text.segmentsAt_intercalate nonempty dotless]
    exact found

end ObjectType

/-! ## Visits -/

namespace TypeWalk

def Covers (walk : TypeWalk) (field : Field) : Prop :=
  (∀ type, field.type.underlying = .enum type → ∃ listed ∈ walk.found, listed.agrees type = true) ∧
  ∀ type, field.type.underlying = .object type → type.id ∈ walk.seen

/-- What a visit does: nothing if the field leads to nothing new, otherwise it adds the new
enumeration or the new object type. -/
theorem visitField_cases (walk : TypeWalk) (field : Field) :
    (walk.Covers field ∧ walk.visitField field = walk) ∨
    (∃ type, field.type.underlying = .enum type ∧
      (∀ listed ∈ walk.found, listed.agrees type = false) ∧
      walk.visitField field = { walk with found := walk.found ++ [type] }) ∨
    (∃ type, field.type.underlying = .object type ∧ type.id ∉ walk.seen ∧
      walk.visitField field =
        { walk with pending := type :: walk.pending, seen := type.id :: walk.seen }) := by
  unfold visitField Covers
  cases field.type.underlying with
  | enum type =>
    by_cases known : walk.found.any (·.agrees type) = true
    · refine .inl ⟨⟨?_, nofun⟩, if_pos known⟩
      rintro _ ⟨⟩
      exact List.any_eq_true.mp known
    · refine .inr (.inl ⟨type, rfl, ?_, if_neg known⟩)
      simpa using known
  | object type =>
    by_cases known : walk.seen.contains type.id = true
    · refine .inl ⟨⟨nofun, ?_⟩, if_pos known⟩
      rintro _ ⟨⟩
      exact List.contains_iff_mem.mp known
    · refine .inr (.inr ⟨type, rfl, ?_, if_neg known⟩)
      exact mt List.contains_iff_mem.mpr known
  | _ => exact .inl ⟨⟨nofun, nofun⟩, rfl⟩

theorem Covers.visitField {walk : TypeWalk} {field : Field} (covers : walk.Covers field)
    (next : Field) : (walk.visitField next).Covers field := by
  rcases visitField_cases walk next with ⟨_, same⟩ | ⟨type, _, _, added⟩ | ⟨type, _, _, added⟩
  · rwa [same]
  · rw [added]
    refine ⟨fun sought isEnum => ?_, covers.2⟩
    rcases covers.1 sought isEnum with ⟨listed, member, agree⟩
    exact ⟨listed, List.mem_append_left _ member, agree⟩
  · rw [added]
    exact ⟨covers.1, fun sought isObject => List.mem_cons_of_mem _ (covers.2 sought isObject)⟩

theorem covers_visitField (walk : TypeWalk) (field : Field) :
    (walk.visitField field).Covers field := by
  rcases visitField_cases walk field with
    ⟨covers, same⟩ | ⟨type, isEnum, _, added⟩ | ⟨type, isObject, _, added⟩
  · rwa [same]
  · rw [added]
    constructor
    case left =>
      intro sought isSought
      cases isEnum.symm.trans isSought
      exact ⟨type, List.mem_append_right _ (List.mem_singleton_self type), type.agrees_self⟩
    case right =>
      intro sought isSought
      cases isEnum.symm.trans isSought
  · rw [added]
    constructor
    case left =>
      intro sought isSought
      cases isObject.symm.trans isSought
    case right =>
      intro sought isSought
      cases isObject.symm.trans isSought
      exact List.mem_cons_self ..

/-! ## Walks to their end -/

def start (type : ObjectType) : TypeWalk :=
  ⟨[type], [type.id], []⟩

/-- Whether a walk ends, and has then opened these types and found these enumerations. There is
no bound on the number of its steps. -/
inductive Ends : TypeWalk → List ObjectType → List EnumType → Prop where
  | nothing {seen : List Nat} {found : List EnumType} : Ends ⟨[], seen, found⟩ [] found
  | opening {type : ObjectType} {pending : List ObjectType} {seen : List Nat}
      {found listed : List EnumType} {others : List ObjectType}
      (rest : Ends (type.fields.foldl visitField ⟨pending, seen, found⟩) others listed) :
      Ends ⟨type :: pending, seen, found⟩ (type :: others) listed

theorem run_of_ends {walk : TypeWalk} {opened : List ObjectType} {listed : List EnumType}
    (ends : walk.Ends opened listed) {steps : Nat} (enough : opened.length ≤ steps) :
    run steps walk = listed := by
  induction ends generalizing steps with
  | nothing => cases steps <;> rfl
  | opening _ induction =>
    rcases Nat.exists_eq_add_one_of_ne_zero (Nat.ne_zero_of_lt enough) with ⟨steps, rfl⟩
    rw [run]
    exact induction (Nat.le_of_succ_le_succ enough)

/-- The object types on the stack, counted with those in them as often as they occur. -/
def pendingCount (walk : TypeWalk) : Nat :=
  (walk.pending.map ObjectType.objectCount).sum

theorem pendingCount_visitField (walk : TypeWalk) (field : Field) :
    (walk.visitField field).pendingCount ≤ walk.pendingCount + field.objectCount := by
  rcases visitField_cases walk field with
    ⟨_, same⟩ | ⟨type, _, _, added⟩ | ⟨type, isObject, _, added⟩
  · rw [same]
    exact Nat.le_add_right ..
  · rw [added]
    exact Nat.le_add_right ..
  · have counted : type.objectCount ≤ field.objectCount := by
      rcases field with ⟨_, fieldType, _⟩
      cases fieldType with
      | object =>
        cases isObject
        exact Nat.le_refl _
      | nullable inner =>
        cases isObject
        exact Nat.le_refl _
      | _ => cases isObject
    rw [added, pendingCount, List.map_cons, List.sum_cons, Nat.add_comm]
    exact Nat.add_le_add_left counted _

theorem pendingCount_foldl (walk : TypeWalk) (fields : List Field) :
    (fields.foldl visitField walk).pendingCount ≤ walk.pendingCount + fieldObjectCount fields := by
  induction fields generalizing walk with
  | nil => exact Nat.le_refl _
  | cons field rest induction =>
    have first := pendingCount_visitField walk field
    have others := induction (walk.visitField field)
    rw [List.foldl_cons, fieldObjectCount]
    omega

/-- When a type is opened, no more object types are put on the stack than there are in it. -/
theorem pendingCount_opening (type : ObjectType) (pending : List ObjectType) (seen : List Nat)
    (found : List EnumType) :
    (type.fields.foldl visitField ⟨pending, seen, found⟩).pendingCount <
      pendingCount ⟨type :: pending, seen, found⟩ := by
  have counted := pendingCount_foldl ⟨pending, seen, found⟩ type.fields
  have whole : type.objectCount = fieldObjectCount type.fields + 1 := by
    cases type
    rw [ObjectType.objectCount]
  have before : pendingCount ⟨type :: pending, seen, found⟩ =
      type.objectCount + pendingCount ⟨pending, seen, found⟩ := List.sum_cons
  omega

theorem exists_ends (walk : TypeWalk) :
    ∃ opened listed, walk.Ends opened listed ∧ opened.length ≤ walk.pendingCount := by
  induction bound : walk.pendingCount using Nat.strongRecOn generalizing walk with
  | ind count induction =>
    rcases walk with ⟨_ | ⟨type, pending⟩, seen, found⟩
    · exact ⟨[], found, .nothing, Nat.zero_le _⟩
    -- What is put on the stack lies inside the type that is taken from it.
    · have fewer := bound ▸ pendingCount_opening type pending seen found
      rcases induction _ fewer _ rfl with ⟨opened, listed, ends, short⟩
      exact ⟨type :: opened, listed, .opening ends, Nat.lt_of_le_of_lt short fewer⟩

theorem exists_ends_reachableEnums (type : ObjectType) :
    ∃ opened, (start type).Ends opened type.reachableEnums := by
  rcases exists_ends (start type) with ⟨opened, listed, ends, short⟩
  have single : (start type).pendingCount = type.objectCount := List.sum_singleton
  have enough : opened.length ≤ type.objectCount + 1 := by omega
  have same : type.reachableEnums = listed := run_of_ends ends enough
  rw [same]
  exact ⟨opened, ends⟩

/-! ## What is known on the way -/

/-- How far a walk through a type has come: it has opened some object types and visited some of
their fields. -/
structure Explores (schema : Schema) (root : ObjectType) (opened : List ObjectType)
    (visited : List Field) (walk : TypeWalk) : Prop where
  rooted : root ∈ opened ++ walk.pending
  inside : ∀ type ∈ opened ++ walk.pending,
    type ∈ schema.types ∧ ∀ field, type.Contains field → root.Contains field
  seen : walk.seen.Perm ((opened ++ walk.pending).map (·.id))
  once : walk.seen.Nodup
  covered : ∀ field ∈ visited, walk.Covers field
  sound : ∀ listed ∈ walk.found,
    ∃ field, root.Contains field ∧ field.type.underlying = .enum listed
  distinct : walk.found.Pairwise fun first second => first.agrees second = false

namespace Explores

variable {schema : Schema} {root : ObjectType} {opened : List ObjectType} {visited : List Field}
  {walk : TypeWalk}

theorem start (known : root ∈ schema.types) : Explores schema root [] [] (start root) where
  rooted := List.mem_singleton_self root
  inside := List.forall_mem_singleton.mpr ⟨known, fun _ => id⟩
  seen := .refl _
  once := List.nodup_singleton _
  covered := nofun
  sound := nofun
  distinct := .nil

theorem visit (explores : Explores schema root opened visited walk) {owner : ObjectType}
    (isOpened : owner ∈ opened) {field : Field} (member : field ∈ owner.fields) :
    Explores schema root opened (visited ++ [field]) (walk.visitField field) := by
  have ownerInside := explores.inside owner (List.mem_append_left _ isOpened)
  have covered : ∀ other ∈ visited ++ [field], (walk.visitField field).Covers other := by
    intro other isVisited
    rcases List.mem_append.mp isVisited with before | now
    · exact (explores.covered other before).visitField field
    · rw [List.mem_singleton.mp now]
      exact covers_visitField walk field
  rcases visitField_cases walk field with
    ⟨_, same⟩ | ⟨type, isEnum, isNew, added⟩ | ⟨type, isObject, isNew, added⟩
  · rw [same] at covered ⊢
    exact { explores with covered }
  · rw [added] at covered ⊢
    -- The new enumeration is that of a field of the root, and agrees with none before it.
    refine { explores with covered, sound := ?_, distinct := ?_ }
    · intro listed isListed
      rcases List.mem_append.mp isListed with before | now
      · exact explores.sound listed before
      · rw [List.mem_singleton.mp now]
        exact ⟨field, ownerInside.2 field (.field member), isEnum⟩
    · refine List.pairwise_append.mpr ⟨explores.distinct, List.pairwise_singleton _ _, ?_⟩
      intro listed isListed other isOther
      rw [List.mem_singleton.mp isOther]
      exact isNew listed isListed
  · rw [added] at covered ⊢
    -- The new object type stands in front of the stack, and so behind the opened types.
    have moved : (opened ++ type :: walk.pending).Perm (type :: (opened ++ walk.pending)) :=
      List.perm_middle
    refine { explores with covered, rooted := ?_, inside := ?_, seen := ?_, once := ?_ }
    · exact moved.mem_iff.mpr (List.mem_cons_of_mem _ explores.rooted)
    · intro other isOther
      rcases List.mem_cons.mp (moved.mem_iff.mp isOther) with rfl | before
      · have known := schema.closed owner ownerInside.1 field member other isObject
        exact ⟨known, fun inner contains => ownerInside.2 inner (.nested member isObject contains)⟩
      · exact explores.inside other before
    · exact (explores.seen.cons type.id).trans (moved.map ObjectType.id).symm
    · exact List.nodup_cons.mpr ⟨isNew, explores.once⟩

theorem visitAll (explores : Explores schema root opened visited walk) {owner : ObjectType}
    (isOpened : owner ∈ opened) {fields : List Field}
    (members : ∀ field ∈ fields, field ∈ owner.fields) :
    Explores schema root opened (visited ++ fields) (fields.foldl visitField walk) := by
  induction fields generalizing visited walk with
  | nil => rwa [List.append_nil]
  | cons field rest induction =>
    rw [List.forall_mem_cons] at members
    have later := induction (explores.visit isOpened members.1) members.2
    rwa [List.append_assoc] at later

theorem opening {type : ObjectType} {pending : List ObjectType} {seen : List Nat}
    {found : List EnumType}
    (explores : Explores schema root opened visited ⟨type :: pending, seen, found⟩) :
    Explores schema root (opened ++ [type]) (visited ++ type.fields)
      (type.fields.foldl visitField ⟨pending, seen, found⟩) := by
  have regrouped : opened ++ [type] ++ pending = opened ++ type :: pending :=
    List.append_assoc ..
  have popped : Explores schema root (opened ++ [type]) visited ⟨pending, seen, found⟩ :=
    { explores with
      rooted := regrouped ▸ explores.rooted
      inside := regrouped ▸ explores.inside
      seen := regrouped ▸ explores.seen }
  exact popped.visitAll (List.mem_append_right _ (List.mem_singleton_self type)) fun _ => id

theorem atEnd (explores : Explores schema root opened (opened.flatMap (·.fields)) walk)
    {others : List ObjectType} {listed : List EnumType} (ends : walk.Ends others listed) :
    ∃ seen, Explores schema root (opened ++ others) ((opened ++ others).flatMap (·.fields))
      ⟨[], seen, listed⟩ := by
  induction ends generalizing opened with
  | @nothing seen found =>
    rw [List.append_nil]
    exact ⟨seen, explores⟩
  | @opening type pending seen found listed others _ induction =>
    have further := explores.opening
    have visited : (opened ++ [type]).flatMap (·.fields) =
        opened.flatMap (·.fields) ++ type.fields := by
      rw [List.flatMap_append, List.flatMap_singleton]
    rw [← visited] at further
    have later := induction further
    rwa [List.append_assoc] at later

/-! ## Nothing is lost -/

theorem mem_of_contains {seen : List Nat} {listed : List EnumType}
    (explores : Explores schema root opened (opened.flatMap (·.fields)) ⟨[], seen, listed⟩)
    {type : ObjectType} {field : Field} (contains : type.Contains field)
    (isOpened : type ∈ opened) : field ∈ opened.flatMap (·.fields) := by
  induction contains with
  | @field type field member => exact List.mem_flatMap.mpr ⟨type, isOpened, member⟩
  | @nested type inner owner field member isObject _ induction =>
    have isVisited : owner ∈ opened.flatMap (·.fields) :=
      List.mem_flatMap.mpr ⟨type, isOpened, member⟩
    have isSeen : inner.id ∈ seen := (explores.covered owner isVisited).2 inner isObject
    rcases List.mem_map.mp (explores.seen.mem_iff.mp isSeen) with ⟨other, isOther, sameId⟩
    have known := explores.inside
    simp only [List.append_nil] at isOther known
    -- The type that was seen under the identity of the nested one is the nested one.
    have innerKnown := schema.closed type (known type isOpened).1 owner member inner isObject
    have same := schema.identified other (known other isOther).1 inner innerKnown sameId
    exact induction (same ▸ isOther)

theorem exists_listed_iff {seen : List Nat} {listed : List EnumType}
    (explores : Explores schema root opened (opened.flatMap (·.fields)) ⟨[], seen, listed⟩)
    (sought : EnumType) :
    (∃ found ∈ listed, sought.agrees found = true) ↔
      ∃ field found, root.Contains field ∧ field.type.underlying = .enum found ∧
        sought.agrees found = true := by
  constructor
  case mp =>
    rintro ⟨found, isListed, agree⟩
    rcases explores.sound found isListed with ⟨field, contains, isEnum⟩
    exact ⟨field, found, contains, isEnum, agree⟩
  case mpr =>
    rintro ⟨field, found, contains, isEnum, agree⟩
    have rooted : root ∈ opened := by simpa using explores.rooted
    have isVisited := explores.mem_of_contains contains rooted
    rcases (explores.covered field isVisited).1 found isEnum with ⟨other, isListed, sameEnum⟩
    rw [EnumType.agrees_comm] at sameEnum
    exact ⟨other, isListed, EnumType.agrees_trans agree sameEnum⟩

end Explores

end TypeWalk

/-! ## The enumerations of a type -/

namespace ObjectType

structure ListsEnums (type : ObjectType) (enums : List EnumType) : Prop where
  complete (sought : EnumType) : (∃ listed ∈ enums, sought.agrees listed = true) ↔
    ∃ path field found, type.fieldAt? (Text.segments path) = some field ∧
      field.type.underlying = .enum found ∧ sought.agrees found = true
  distinct : enums.Pairwise fun first second => first.agrees second = false

/-- The walk through a type ends, after it opened each object type once at most, and it has found
the enumerations that the paths of the type end at. -/
theorem listsEnums_reachableEnums {schema : Schema} (checked : schema.IsChecked)
    {type : ObjectType} (known : type ∈ schema.types) :
    type.ListsEnums type.reachableEnums ∧
      ∃ opened, (TypeWalk.start type).Ends opened type.reachableEnums ∧
        (opened.map (·.id)).Nodup ∧ opened ⊆ schema.types := by
  rcases TypeWalk.exists_ends_reachableEnums type with ⟨opened, ends⟩
  rcases (TypeWalk.Explores.start known).atEnd ends with ⟨seen, explores⟩
  constructor
  case left =>
    refine ⟨fun sought => ?_, explores.distinct⟩
    rw [explores.exists_listed_iff]
    constructor
    case mp =>
      rintro ⟨field, found, contains, isEnum, agree⟩
      rcases (exists_path_iff_contains checked known).mpr contains with ⟨path, atPath⟩
      exact ⟨path, field, found, atPath, isEnum, agree⟩
    case mpr =>
      rintro ⟨path, field, found, atPath, isEnum, agree⟩
      have contains := (exists_path_iff_contains checked known).mp ⟨path, atPath⟩
      exact ⟨field, found, contains, isEnum, agree⟩
  case right =>
    have inside := explores.inside
    have identities := explores.seen
    simp only [List.nil_append, List.append_nil] at inside identities
    exact ⟨opened, ends, identities.nodup_iff.mp explores.once,
      fun type isOpened => (inside type isOpened).1⟩

/-! ## A schema of shelves -/

def box : ObjectType :=
  ⟨4, "Box", [⟨"Paint", .enum ⟨"Colour", [("Red", 1), ("Green", 2)], by decide⟩, none⟩], []⟩

def shelf : ObjectType :=
  ⟨5, "Shelf", [⟨"Left", .object box, none⟩, ⟨"Right", .nullable (.object box), none⟩,
    ⟨"Size", .enum ⟨"Size", [("Small", 1)], by decide⟩, none⟩], []⟩

end ObjectType

def Schema.shelves : Schema where
  types := [.shelf, .box]
  closed := by
    simp only [List.mem_cons, List.not_mem_nil, or_false]
    rintro type (rfl | rfl) field member nested isObject
    · simp only [ObjectType.shelf, List.mem_cons, List.not_mem_nil, or_false] at member
      rcases member with rfl | rfl | rfl <;> cases isObject
      · exact .inr rfl
      · exact .inr rfl
    · rcases List.mem_singleton.mp member with rfl
      cases isObject
  identified := by
    simp only [List.mem_cons, List.not_mem_nil, or_false]
    rintro first (rfl | rfl) second (rfl | rfl) sameId <;> first | rfl | cases sameId

theorem Schema.isChecked_shelves : Schema.shelves.IsChecked := by
  intro type member
  simp only [Schema.shelves, List.mem_cons, List.not_mem_nil, or_false] at member
  rcases member with rfl | rfl
  · exact ⟨⟨"Shelf", ObjectType.shelf.fields, []⟩, rfl⟩
  · exact ⟨⟨"Box", ObjectType.box.fields, []⟩, rfl⟩

/-- Two fields of a shelf lead to boxes, the colour of which is listed once. -/
theorem ObjectType.listsEnums_reachableEnums_shelf :
    Schema.shelves.IsChecked ∧ shelf ∈ Schema.shelves.types ∧
      shelf.ListsEnums shelf.reachableEnums ∧
      shelf.reachableEnums.map (·.name) = ["Size", "Colour"] := by
  have known : shelf ∈ Schema.shelves.types := List.mem_cons_self ..
  have lists := (listsEnums_reachableEnums Schema.isChecked_shelves known).1
  exact ⟨Schema.isChecked_shelves, known, lists, by decide +kernel⟩

end Proviso
