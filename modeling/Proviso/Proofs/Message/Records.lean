import Proviso.Proofs.Message.Format
import Proviso.Proofs.Record.Walks

/-!
Messages about records. A record has a value at a path where its type has a field there, and also
where the path goes on behind null, or into an object that the type does not know of: a placeholder
is then shown, although no field is behind it. Whether a message fails is therefore a matter of the
type, except for such placeholders.
-/

namespace Proviso

/-! ## Paths of records -/

theorem ObjectType.ne_nil_of_fieldAt? {type : ObjectType} {path : List String} {field : Field}
    (found : type.fieldAt? path = some field) : path ≠ [] := by
  rintro rfl
  cases found

namespace Record

open ObjectType (ne_nil_of_fieldAt?)

theorem follow_append (value : Value) (before after : List String) :
    follow value (before ++ after) = (follow value before).bind (follow · after) := by
  induction before generalizing value with
  | nil => rfl
  | cons segment rest induction =>
    cases value with
    | object record =>
      rw [List.cons_append, follow, follow, Option.bind_assoc]
      exact congrArg _ (funext induction)
    | scalar value =>
      cases value with
      | null => cases after <;> rfl
      | _ => rfl

theorem at?_append {record : Record} {before : List String} (nonempty : before ≠ [])
    (after : List String) :
    record.at? (before ++ after) = (record.at? before).bind (follow · after) := by
  cases before with
  | nil => exact absurd rfl nonempty
  | cons segment rest =>
    rw [List.cons_append, at?, at?, Option.bind_assoc]
    exact congrArg _ (funext fun value => follow_append value rest after)

theorem follow_object (record : Record) {path : List String} (nonempty : path ≠ []) :
    follow (.object record) path = record.at? path := by
  cases path with
  | nil => exact absurd rfl nonempty
  | cons segment rest => rfl

theorem follow_null (path : List String) : follow .null path = some .null := by
  cases path <;> rfl

/-- Whether a path leads to an object that the type does not know of: the field at its end can be
null in more than one way. -/
def Hides (record : Record) (path : List String) (inner : Record) : Prop :=
  ∃ field, record.type.fieldAt? path = some field ∧
    (∀ nested, field.type.underlying ≠ .object nested) ∧ record.at? path = some (.object inner)

/-- Whether a path leads to a field and goes on where its type does not: behind null, or into an
object that is hidden there, to a field of that object or beyond. -/
inductive Outruns : Record → List String → Prop
  | null {record : Record} {before after : List String} {field : Field}
      (found : record.type.fieldAt? before = some field) (isNull : record.at? before = some .null)
      (more : after ≠ []) : Outruns record (before ++ after)
  | within {record inner : Record} {before after : List String} {field : Field}
      (hides : record.Hides before inner) (found : inner.type.fieldAt? after = some field) :
      Outruns record (before ++ after)
  | beyond {record inner : Record} {before after : List String} (hides : record.Hides before inner)
      (outruns : Outruns inner after) : Outruns record (before ++ after)

theorem Outruns.exists_split {record : Record} {path : List String}
    (outruns : record.Outruns path) :
    ∃ before after field, path = before ++ after ∧
      record.type.fieldAt? before = some field ∧ after ≠ [] := by
  induction outruns with
  | null found _ more => exact ⟨_, _, _, rfl, found, more⟩
  | within hides found =>
    rcases hides with ⟨owner, isOwner, _⟩
    exact ⟨_, _, owner, rfl, isOwner, ne_nil_of_fieldAt? found⟩
  | beyond hides _ induction =>
    rcases hides with ⟨owner, isOwner, _⟩
    rcases induction with ⟨before, after, field, rfl, _, more⟩
    exact ⟨_, _, owner, rfl, isOwner, List.append_ne_nil_of_right_ne_nil _ more⟩

section Nested

variable {record inner : Record} {segment : String} {slot : Nat} {owner : Field}
  (hasField : record.type.field? segment = some (slot, owner))
  (isObject : owner.type.underlying = .object inner.type)
  (hasValue : record.get? segment = some (.object inner))

include hasValue in
theorem at?_cons {path : List String} (nonempty : path ≠ []) :
    record.at? (segment :: path) = inner.at? path := by
  rw [at?, hasValue, Option.bind_some, follow_object inner nonempty]

include hasField isObject hasValue in
theorem Outruns.cons {path : List String} (outruns : inner.Outruns path) :
    record.Outruns (segment :: path) := by
  have hidden {before : List String} {other : Record} (hides : inner.Hides before other) :
      record.Hides (segment :: before) other := by
    rcases hides with ⟨field, found, notObject, isValue⟩
    have nonempty := ne_nil_of_fieldAt? found
    refine ⟨field, ?_, notObject, ?_⟩
    · rw [ObjectType.fieldAt?_through hasField isObject nonempty, found]
    · rw [at?_cons hasValue nonempty, isValue]
  cases outruns with
  | @null _ before _ _ found isNull more =>
    have nonempty := ne_nil_of_fieldAt? found
    rw [← ObjectType.fieldAt?_through hasField isObject nonempty] at found
    rw [← at?_cons hasValue nonempty] at isNull
    rw [← List.cons_append]
    exact .null found isNull more
  | within hides found =>
    rw [← List.cons_append]
    exact .within (hidden hides) found
  | beyond hides outruns =>
    rw [← List.cons_append]
    exact .beyond (hidden hides) outruns

end Nested

section Built

variable {schema : Schema}

theorem Built.isSome_of_fieldAt? {record : Record} (built : record.Built schema)
    {path : List String} {field : Field} (found : record.type.fieldAt? path = some field) :
    (record.at? path).isSome = true := by
  rcases ObjectType.exists_resolve_of_fieldAt? found false with ⟨slots, last, resolved⟩
  rcases built.read_of_resolve resolved with ⟨value, named, _⟩
  rw [named]
  rfl

theorem Built.of_get? {record inner : Record} (built : record.Built schema) {name : String}
    (isValue : record.get? name = some (.object inner)) : inner.Built schema := by
  rcases Option.bind_eq_some_iff.mp isValue with ⟨⟨slot, field⟩, _, inSlot⟩
  exact built.fits.2.nested (List.mem_of_getElem? inSlot)

theorem Built.of_follow {start inner : Record} (built : start.Built schema) {path : List String}
    (reaches : follow (.object start) path = some (.object inner)) : inner.Built schema := by
  induction path generalizing start with
  | nil =>
    cases reaches
    exact built
  | cons segment rest induction =>
    rcases Option.bind_eq_some_iff.mp reaches with ⟨value, isValue, reaches⟩
    cases value with
    | object next => exact induction (built.of_get? isValue) reaches
    | scalar value =>
      cases rest with
      | nil => cases reaches
      | cons next rest => cases value <;> cases reaches

theorem Built.of_at? {record inner : Record} (built : record.Built schema) {path : List String}
    (reaches : record.at? path = some (.object inner)) : inner.Built schema := by
  cases path with
  | nil => cases reaches
  | cons segment rest =>
    have follows : follow (.object record) (segment :: rest) = some (.object inner) := reaches
    exact built.of_follow follows

theorem Built.isSome_of_outruns {record : Record} (built : record.Built schema)
    {path : List String} (outruns : record.Outruns path) : (record.at? path).isSome = true := by
  induction outruns with
  | null found isNull _ =>
    rw [at?_append (ne_nil_of_fieldAt? found), isNull, Option.bind_some, follow_null]
    rfl
  | within hides found =>
    rcases hides with ⟨owner, isOwner, _, isObject⟩
    rw [at?_append (ne_nil_of_fieldAt? isOwner), isObject, Option.bind_some,
      follow_object _ (ne_nil_of_fieldAt? found)]
    exact (built.of_at? isObject).isSome_of_fieldAt? found
  | beyond hides outruns induction =>
    rcases hides with ⟨owner, isOwner, _, isObject⟩
    rcases outruns.exists_split with ⟨before, after, field, rfl, _, more⟩
    rw [at?_append (ne_nil_of_fieldAt? isOwner), isObject, Option.bind_some,
      follow_object _ (List.append_ne_nil_of_right_ne_nil _ more)]
    exact induction (built.of_at? isObject)

theorem Built.fieldAt?_or_outruns {record : Record} (built : record.Built schema)
    {path : List String} (hasValue : (record.at? path).isSome = true) :
    (record.type.fieldAt? path).isSome = true ∨ record.Outruns path := by
  induction path generalizing record with
  | nil => cases hasValue
  | cons segment rest induction =>
    rcases Option.isSome_iff_exists.mp hasValue with ⟨last, reaches⟩
    rcases Option.bind_eq_some_iff.mp reaches with ⟨value, isValue, reaches⟩
    rcases Option.bind_eq_some_iff.mp isValue with ⟨⟨slot, owner⟩, hasField, inSlot⟩
    have isFirst := ObjectType.fieldAt?_singleton.mpr ⟨slot, hasField⟩
    have atFirst : record.at? [segment] = some value := by
      rw [at?, isValue]
      rfl
    cases rest with
    | nil => exact .inl (Option.isSome_iff_exists.mpr ⟨owner, isFirst⟩)
    | cons next rest =>
      have more : next :: rest ≠ [] := List.cons_ne_nil _ _
      cases value with
      | scalar value =>
        cases value with
        | null => exact .inr (.null isFirst atFirst more)
        | _ => cases reaches
      | object inner =>
        have goesOn : (inner.at? (next :: rest)).isSome = true :=
          Option.isSome_iff_exists.mpr ⟨last, reaches⟩
        have inside := induction (built.of_get? isValue) goesOn
        by_cases isObject : ∃ nested, owner.type.underlying = .object nested
        · rcases isObject with ⟨nested, isObject⟩
          rcases built.inner hasField inSlot isObject with ⟨_, rfl⟩
          rw [ObjectType.fieldAt?_through hasField isObject more]
          exact inside.imp_right (Outruns.cons hasField isObject isValue)
        · have hides : record.Hides [segment] inner :=
            ⟨owner, isFirst, not_exists.mp isObject, atFirst⟩
          rcases inside with found | outruns
          · rcases Option.isSome_iff_exists.mp found with ⟨field, found⟩
            exact .inr (.within hides found)
          · exact .inr (.beyond hides outruns)

theorem Built.isSome_at?_iff {record : Record} (built : record.Built schema)
    (path : List String) :
    (record.at? path).isSome = true ↔
      (record.type.fieldAt? path).isSome = true ∨ record.Outruns path := by
  refine ⟨built.fieldAt?_or_outruns, ?_⟩
  rintro (found | outruns)
  · rcases Option.isSome_iff_exists.mp found with ⟨field, found⟩
    exact built.isSome_of_fieldAt? found
  · exact built.isSome_of_outruns outruns

end Built

end Record

/-! ## Values that a message asks for -/

namespace Message

open Outcome

def Piece.valuePath? : Piece → Option String
  | .char _ => none
  | .placeholder value =>
    if value.isLive && !value.isLabel then some (String.ofList value.path) else none

def valuePaths (source : String) : List String :=
  (pieces source.toList).filterMap Piece.valuePath?

theorem Resolver.isMissing_eq (resolver : Resolver) (piece : Piece) :
    resolver.isMissing piece = piece.valuePath?.any fun path => (resolver.value? path).isNone := by
  cases piece with
  | char value => rfl
  | placeholder value =>
    rw [isMissing, Piece.valuePath?]
    split
    case isTrue asks => rw [asks, Bool.true_and, Option.any_some]
    case isFalse quiet => rw [Bool.eq_false_iff.mpr quiet, Bool.false_and, Option.any_none]

structure Resolver.Completes (resolver : Resolver) (source : String) : Prop where
  balanced : ∀ piece ∈ pieces source.toList, piece.isBalanced = true
  given : ∀ path ∈ valuePaths source, (resolver.value? path).isSome = true

theorem Resolver.completes_iff {resolver : Resolver} {source : String} :
    resolver.Completes source ↔ (∀ piece ∈ pieces source.toList, piece.isBalanced = true) ∧
      ∀ piece ∈ pieces source.toList, resolver.isMissing piece = false := by
  have given : (∀ path ∈ valuePaths source, (resolver.value? path).isSome = true) ↔
      ∀ piece ∈ pieces source.toList, resolver.isMissing piece = false := by
    simp only [valuePaths, List.mem_filterMap, isMissing_eq, Option.any_eq_false,
      Option.isNone_eq_false_iff]
    constructor
    · exact fun given piece member path asks => given path ⟨piece, member, asks⟩
    · rintro given path ⟨piece, member, asks⟩
      exact given piece member path asks
  rw [← given]
  constructor
  · rintro ⟨balanced, given⟩
    exact ⟨balanced, given⟩
  · rintro ⟨balanced, given⟩
    exact ⟨balanced, given⟩

theorem Resolver.exists_replaceItems {resolver : Resolver} {items : List Item}
    (given : ∀ item ∈ items, resolver.lacksValue item = false) (identifier : Item → String)
    (output : List Char) : ∃ result, resolver.replaceItems identifier items output = .ok result := by
  induction items generalizing output with
  | nil => exact ⟨output, rfl⟩
  | cons item rest induction =>
    rw [List.forall_mem_cons] at given
    rw [replaceItems, itemText_eq, given.1]
    exact induction given.2 _

section

variable (identifiers : Identifiers) {source : String} {resolver : Resolver}

theorem format_of_completes (completes : resolver.Completes source) :
    ∃ message, format identifiers source resolver = .ok message := by
  rcases Resolver.completes_iff.mp completes with ⟨balanced, given⟩
  have noneMissing : (pieces source.toList).find? resolver.isMissing = none :=
    List.find?_eq_none.mpr fun piece member => Bool.eq_false_iff.mp (given piece member)
  have found := find?_liveItems_map_toPart resolver (pieces source.toList)
  rw [noneMissing, Option.bind_none, List.find?_eq_none] at found
  have complete := fun item member => Bool.eq_false_iff.mpr (found item member)
  rcases Resolver.exists_replaceItems complete _ _ with ⟨output, replaced⟩
  rw [format, read_of_isBalanced balanced]
  exact ⟨String.ofList output, map_eq_ok.mpr ⟨output, replaced, rfl⟩⟩

theorem format_of_not_completes (lacks : ¬ resolver.Completes source) :
    ∃ cause, format identifiers source resolver = .error (.format cause) := by
  by_cases unbalanced : ∃ piece ∈ pieces source.toList, piece.isBalanced = false
  · rcases format_of_unbalanced identifiers unbalanced with ⟨_, _, _, _, _, _, fails⟩
    exact ⟨_, fails⟩
  · have balanced : ∀ piece ∈ pieces source.toList, piece.isBalanced = true := by
      simpa using unbalanced
    by_cases missing : ∃ piece ∈ pieces source.toList, resolver.isMissing piece = true
    · rcases format_of_isMissing identifiers balanced missing with ⟨_, _, _, _, _, _, fails⟩
      exact ⟨_, fails⟩
    · have given : ∀ piece ∈ pieces source.toList, resolver.isMissing piece = false := by
        simpa using missing
      exact absurd (Resolver.completes_iff.mpr ⟨balanced, given⟩) lacks

theorem format_isOk_iff :
    (∃ message, format identifiers source resolver = .ok message) ↔ resolver.Completes source := by
  constructor
  · rintro ⟨message, succeeds⟩
    by_cases completes : resolver.Completes source
    · exact completes
    · rcases format_of_not_completes identifiers completes with ⟨cause, fails⟩
      cases succeeds.symm.trans fails
  · exact format_of_completes identifiers

theorem format_failsOnly :
    FailsOnly (fun fault => ∃ cause, fault = .format cause)
      (format identifiers source resolver) := by
  intro fault fails
  by_cases completes : resolver.Completes source
  · rcases format_of_completes identifiers completes with ⟨message, succeeds⟩
    cases succeeds.symm.trans fails
  · rcases format_of_not_completes identifiers completes with ⟨cause, isCause⟩
    cases isCause.symm.trans fails
    exact ⟨cause, rfl⟩

end

/-! ## Messages about records -/

theorem completes_ofRecord_iff {schema : Schema} {record : Record} (built : record.Built schema)
    {source : String} :
    (Resolver.ofRecord record).Completes source ↔
      (∀ piece ∈ pieces source.toList, piece.isBalanced = true) ∧
        ∀ path ∈ valuePaths source,
          (record.type.fieldAt? (Text.segments path)).isSome = true ∨
            record.Outruns (Text.segments path) := by
  have value (path : String) : ((Resolver.ofRecord record).value? path).isSome = true ↔
      (record.type.fieldAt? (Text.segments path)).isSome = true ∨
        record.Outruns (Text.segments path) := by
    rw [← built.isSome_at?_iff, Resolver.ofRecord, Option.isSome_map]
  simp only [← value]
  constructor
  · rintro ⟨balanced, given⟩
    exact ⟨balanced, given⟩
  · rintro ⟨balanced, given⟩
    exact ⟨balanced, given⟩

/-- A record has a value at a path where its type has a field, or where the path outruns it. So a
message about it is put together if its braces match and every placeholder for a value has a field
or is outrun, and is a fault of the template otherwise: two records are alike in this if none of
the placeholders without a field outruns one of them. -/
theorem format_ofRecord {schema : Schema} {record : Record} (built : record.Built schema)
    (identifiers : Identifiers) (source : String) :
    (∀ path, (record.at? path).isSome = true ↔
      (record.type.fieldAt? path).isSome = true ∨ record.Outruns path) ∧
    ((∃ message, format identifiers source (.ofRecord record) = .ok message) ↔
      (∀ piece ∈ pieces source.toList, piece.isBalanced = true) ∧
        ∀ path ∈ valuePaths source,
          (record.type.fieldAt? (Text.segments path)).isSome = true ∨
            record.Outruns (Text.segments path)) ∧
    FailsOnly (fun fault => ∃ cause, fault = .format cause)
      (format identifiers source (.ofRecord record)) ∧
    ∀ other : Record, other.Built schema → other.type = record.type →
      (∀ path ∈ valuePaths source, record.type.fieldAt? (Text.segments path) = none →
        ¬ record.Outruns (Text.segments path) ∧ ¬ other.Outruns (Text.segments path)) →
      ((∃ message, format identifiers source (.ofRecord record) = .ok message) ↔
        ∃ message, format identifiers source (.ofRecord other) = .ok message) := by
  refine ⟨built.isSome_at?_iff, ?_, format_failsOnly identifiers,
    fun other otherBuilt sameType fits => ?_⟩
  · rw [format_isOk_iff, completes_ofRecord_iff built]
  · rw [format_isOk_iff, format_isOk_iff, completes_ofRecord_iff built,
      completes_ofRecord_iff otherBuilt, sameType]
    refine and_congr_right fun _ => forall₂_congr fun path asked => ?_
    cases field : record.type.fieldAt? (Text.segments path) with
    | some field => simp
    | none => rw [or_iff_left (fits path asked field).1, or_iff_left (fits path asked field).2]

/-- A city may be asked for whether or not a person has an address, and the first part of a name
never: a name is a text. -/
theorem format_ofRecord_city :
    let first := Record.homeless 30 "Ada"
    let second := Record.housed 20 "Ben" "Rome"
    first.Built .people ∧ second.Built .people ∧ first.Outruns ["Home", "City"] ∧
      (∃ message, format .dotted "\x7bHome.City\x7d" (.ofRecord first) = .ok message) ∧
      (∃ message, format .dotted "\x7bHome.City\x7d" (.ofRecord second) = .ok message) ∧
      ¬ (∃ message, format .dotted "\x7bName.First\x7d" (.ofRecord first) = .ok message) ∧
      ¬ ∃ message, format .dotted "\x7bName.First\x7d" (.ofRecord second) = .ok message := by
  intro first second
  have firstBuilt := Record.built_homeless 30 "Ada"
  have secondBuilt := Record.built_housed 20 "Ben" "Rome"
  have outruns : first.Outruns (["Home"] ++ ["City"]) := .null rfl rfl (List.cons_ne_nil _ _)
  have cities : valuePaths "\x7bHome.City\x7d" = ["Home.City"] := by decide +kernel
  have names : valuePaths "\x7bName.First\x7d" = ["Name.First"] := by decide +kernel
  have city : Text.segments "Home.City" = ["Home", "City"] := by decide
  have name : Text.segments "Name.First" = ["Name", "First"] := by decide
  rcases format_ofRecord firstBuilt .dotted "\x7bHome.City\x7d" with ⟨_, succeeds, _, alike⟩
  rcases format_ofRecord firstBuilt .dotted "\x7bName.First\x7d" with
    ⟨valued, nameSucceeds, _, nameAlike⟩
  have otherValued := (format_ofRecord secondBuilt .dotted "").1
  simp only [cities, List.forall_mem_singleton, city] at succeeds alike
  simp only [names, List.forall_mem_singleton, name] at nameSucceeds nameAlike
  have shown := succeeds.mpr ⟨by decide +kernel, .inl rfl⟩
  have same := alike _ secondBuilt rfl nofun
  have noName : ¬ first.Outruns ["Name", "First"] := fun outruns =>
    nomatch (valued ["Name", "First"]).mpr (.inr outruns)
  have otherNoName : ¬ second.Outruns ["Name", "First"] := fun outruns =>
    nomatch (otherValued ["Name", "First"]).mpr (.inr outruns)
  have refused := fun holds => (nameSucceeds.mp holds).2.elim nofun noName
  have nameSame := nameAlike _ secondBuilt rfl fun _ => ⟨noName, otherNoName⟩
  exact ⟨firstBuilt, secondBuilt, outruns, shown, same.mp shown, refused,
    fun holds => refused (nameSame.mpr holds)⟩

/-- An address has no street. The message is refused for a person with an address only. -/
theorem format_ofRecord_street :
    ObjectType.person.fieldAt? (Text.segments "Home.Street") = none ∧
      (Record.homeless 30 "Ada").Built .people ∧ (Record.housed 30 "Ada" "Rome").Built .people ∧
      (Record.homeless 30 "Ada").at? (Text.segments "Home.Street") = some .null ∧
      format .dotted "\x7bHome.Street\x7d" (.ofRecord (.homeless 30 "Ada")) = .ok "" ∧
      format .dotted "\x7bHome.Street\x7d" (.ofRecord (.housed 30 "Ada" "Rome")) =
        .error (.format (.noValue "Home.Street")) :=
  ⟨rfl, Record.built_homeless 30 "Ada", Record.built_housed 30 "Ada" "Rome", rfl, rfl, rfl⟩

end Message

end Proviso
