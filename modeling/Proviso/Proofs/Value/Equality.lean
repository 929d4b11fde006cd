import Mathlib.Data.List.Forall2
import Proviso.Proofs.Value.Ordering

/-!
The laws of equality. Apart from the wildcard and from mixing whole numbers with doubles, equality
is an equivalence on the values in which every number is one. Null stands in one class with the
blank texts; enumerations are the same in any order of their members, and records field by field.
-/

namespace Proviso

/-! ## Numbers that are none -/

mutual
/-- Whether the double that is no number occurs in a value, at any depth. -/
def Value.containsNaN : Value → Bool
  | .scalar value => Value.isNaN (.scalar value)
  | .object record => record.containsNaN

def Record.containsNaN : Record → Bool
  | ⟨_, values⟩ => valuesContainNaN values

def valuesContainNaN : List Value → Bool
  | [] => false
  | value :: rest => value.containsNaN || valuesContainNaN rest
end

/-! ## Agreement -/

theorem EnumValue.agrees_self (value : EnumValue) : value.agrees value = true := by
  rw [agrees, EnumType.agrees_self, beq_self_eq_true]
  rfl

theorem EnumValue.agrees_iff {first second : EnumValue} : first.agrees second = true ↔
    (first.type.name = second.type.name ∧ first.type.members.Perm second.type.members) ∧
      first.value = second.value := by
  rw [agrees, Bool.and_eq_true, EnumType.agrees_iff_perm, beq_iff_eq]

theorem EnumValue.agrees_trans {first second third : EnumValue}
    (agree : first.agrees second = true) (further : second.agrees third = true) :
    first.agrees third = true := by
  rw [agrees_iff] at agree further ⊢
  exact ⟨⟨agree.1.1.trans further.1.1, agree.1.2.trans further.1.2⟩, agree.2.trans further.2⟩

theorem EnumValue.agrees_congr {first second : EnumValue} (agree : first.agrees second = true)
    (value : EnumValue) : first.agrees value = second.agrees value := by
  rw [Bool.eq_iff_iff]
  exact ⟨agrees_trans (agrees_comm first second ▸ agree), agrees_trans agree⟩

theorem Scalar.agrees_self_eq (value : Scalar) :
    value.agrees value = !Value.isNaN (.scalar value) := by
  cases value with
  | null => rfl
  | float number => exact Value.float_beq_self_eq number
  | enum value => exact EnumValue.agrees_self value
  | _ => exact beq_self_eq_true _

theorem Scalar.agrees_trans {first second third : Scalar} (agree : first.agrees second = true)
    (further : second.agrees third = true) : first.agrees third = true := by
  cases first <;> cases second <;> first | cases agree; done | skip
  all_goals cases third <;> first | cases further; done | skip
  case float.float.float first second third =>
    rcases Value.float_beq_iff.mp agree with ⟨parts, isFirst, isSecond⟩
    rcases Value.float_beq_iff.mp further with ⟨others, isSecond', isThird⟩
    cases isSecond.symm.trans isSecond'
    exact Value.float_beq_iff.mpr ⟨parts, isFirst, isThird⟩
  case enum.enum.enum => exact EnumValue.agrees_trans agree further
  case null.null.null => rfl
  all_goals
    rw [agrees, beq_iff_eq] at agree further ⊢
    exact agree.trans further

mutual
/-- Every value agrees with itself, unless it contains the double that is no number. -/
theorem Value.agrees_self_eq : (value : Value) → value.agrees value = !value.containsNaN
  | .scalar value => Scalar.agrees_self_eq value
  | .object record => Record.agrees_self_eq record

theorem Record.agrees_self_eq : (record : Record) → record.agrees record = !record.containsNaN
  | ⟨type, values⟩ => by
    rw [Record.agrees, valuesAgree_self_eq values, beq_self_eq_true]
    rfl

theorem valuesAgree_self_eq : (values : List Value) →
    valuesAgree values values = !valuesContainNaN values
  | [] => rfl
  | value :: rest => by
    rw [valuesAgree, valuesContainNaN, Value.agrees_self_eq value, valuesAgree_self_eq rest,
      Bool.not_or]
end

mutual
theorem Value.agrees_trans : (first : Value) → {second third : Value} →
    first.agrees second = true → second.agrees third = true → first.agrees third = true
  | .scalar first, second, third, agree, further => by
    cases second with
    | object => cases agree
    | scalar second =>
      cases third with
      | object => cases further
      | scalar third => exact Scalar.agrees_trans agree further
  | .object first, second, third, agree, further => by
    cases second with
    | scalar => cases agree
    | object second =>
      cases third with
      | scalar => cases further
      | object third => exact Record.agrees_trans first agree further

theorem Record.agrees_trans : (first : Record) → {second third : Record} →
    first.agrees second = true → second.agrees third = true → first.agrees third = true
  | ⟨type, values⟩, ⟨type', values'⟩, ⟨type'', values''⟩, agree, further => by
    rw [Record.agrees, Bool.and_eq_true, beq_iff_eq] at agree further ⊢
    exact ⟨agree.1.trans further.1, valuesAgree_trans values agree.2 further.2⟩

theorem valuesAgree_trans : (first : List Value) → {second third : List Value} →
    valuesAgree first second = true → valuesAgree second third = true →
      valuesAgree first third = true
  | [], second, third, agree, further => by
    cases second with
    | nil => exact further
    | cons => cases agree
  | value :: rest, second, third, agree, further => by
    cases second with
    | nil => cases agree
    | cons value' rest' =>
      cases third with
      | nil => cases further
      | cons value'' rest'' =>
        rw [valuesAgree, Bool.and_eq_true] at agree further ⊢
        exact ⟨Value.agrees_trans value agree.1 further.1,
          valuesAgree_trans rest agree.2 further.2⟩
end

theorem valuesAgree_iff {values others : List Value} : valuesAgree values others = true ↔
    List.Forall₂ (fun value other => value.agrees other = true) values others := by
  induction values generalizing others with
  | nil => cases others <;> simp [valuesAgree]
  | cons value rest induction =>
    cases others with
    | nil => simp [valuesAgree]
    | cons other others =>
      rw [valuesAgree, Bool.and_eq_true, induction, List.forall₂_cons]

theorem Record.agrees_iff_forall₂ {first second : Record} : first.agrees second = true ↔
    first.type.id = second.type.id ∧
      List.Forall₂ (fun value other => value.agrees other = true) first.values second.values := by
  rcases first with ⟨type, values⟩
  rcases second with ⟨type', values'⟩
  rw [agrees, Bool.and_eq_true, beq_iff_eq, valuesAgree_iff]

namespace Value

/-! ## Contents -/

/-- The value in the form in which contents are compared. -/
def folded (caseSensitive : Bool) : Value → Value
  | .string text => .string (String.ofList (Text.comparable caseSensitive text))
  | value => value

/-- Unless a whole number stands next to a double, contents are the same where the folded values
agree. -/
theorem sameContent_eq_agrees {caseSensitive : Bool} {first second : Value}
    (unmixed : (first.type ≠ .int ∧ second.type ≠ .int) ∨
      (first.type ≠ .float ∧ second.type ≠ .float)) :
    sameContent caseSensitive first second =
      (first.folded caseSensitive).agrees (second.folded caseSensitive) := by
  cases first with
  | object record =>
    cases second with
    | object other => rfl
    | scalar other => cases other <;> rfl
  | scalar first =>
    cases second with
    | object other => cases first <;> rfl
    | scalar second =>
      cases first <;> cases second
      case string.string text other =>
        change (_ == _) = (String.ofList _ == String.ofList _)
        rw [Bool.eq_iff_iff, beq_iff_eq, beq_iff_eq, String.ofList_inj]
      case int.float => simp [type, Scalar.type] at unmixed
      case float.int => simp [type, Scalar.type] at unmixed
      all_goals rfl

theorem containsNaN_folded (caseSensitive : Bool) (value : Value) :
    (value.folded caseSensitive).containsNaN = value.containsNaN := by
  cases value with
  | object record => rfl
  | scalar value => cases value <;> rfl

theorem sameContent_self (caseSensitive : Bool) (value : Value) :
    sameContent caseSensitive value value = !value.containsNaN := by
  rw [← containsNaN_folded caseSensitive, ← agrees_self_eq]
  by_cases int : value.type = .int
  · exact sameContent_eq_agrees (.inr (by simp [int]))
  · exact sameContent_eq_agrees (.inl ⟨int, int⟩)

theorem sameContent_trans {caseSensitive : Bool} {first second third : Value}
    (unmixed : (∀ value ∈ [first, second, third], value.type ≠ .int) ∨
      ∀ value ∈ [first, second, third], value.type ≠ .float)
    (same : sameContent caseSensitive first second = true)
    (further : sameContent caseSensitive second third = true) :
    sameContent caseSensitive first third = true := by
  simp only [List.forall_mem_cons] at unmixed
  rw [sameContent_eq_agrees (by tauto)] at same further ⊢
  exact agrees_trans _ same further

/-! ## Emptiness and the wildcard -/

theorem isEmpty_iff {value : Value} : value.isEmpty = true ↔
    value = .null ∨ ∃ text, value = .string text ∧ Text.blank text.toList = true := by
  unfold isEmpty
  split <;> simp_all

theorem equals_null_right (caseSensitive : Bool) (value : Value) :
    equals caseSensitive value .null = value.isEmpty := by
  unfold equals
  cases value.isEmpty <;> rfl

theorem equals_null_left (caseSensitive : Bool) (value : Value) :
    equals caseSensitive .null value = value.isEmpty := by
  unfold equals
  cases value.isEmpty <;> rfl

theorem equals_wildcard (caseSensitive : Bool) (value : Value) :
    equals caseSensitive value (.string wildcard) = !value.isEmpty := by
  have present : (string wildcard).isEmpty = false := not_isEmpty_of_isWildcard rfl
  rw [equals, present]
  cases value.isEmpty <;> rfl

theorem equals_of_plain {caseSensitive : Bool} {dependent target : Value}
    (plain : target.isWildcard = false) : equals caseSensitive dependent target = true ↔
      (dependent.isEmpty = true ∧ target.isEmpty = true) ∨
        (dependent.isEmpty = false ∧ target.isEmpty = false ∧
          sameContent caseSensitive dependent target = true) := by
  rw [equals, plain]
  cases dependent.isEmpty <;> cases target.isEmpty <;> simp

theorem equals_self (caseSensitive : Bool) (value : Value) :
    equals caseSensitive value value = !value.containsNaN := by
  cases empty : value.isEmpty with
  | true =>
    rw [equals, empty]
    rcases isEmpty_iff.mp empty with rfl | ⟨text, rfl, _⟩ <;> rfl
  | false =>
    cases wild : value.isWildcard with
    | true =>
      rw [equals_of_isWildcard caseSensitive empty wild]
      rcases isString_iff.mp (isString_of_isWildcard wild) with ⟨text, rfl⟩
      rfl
    | false => rw [equals_of_present empty empty wild, sameContent_self]

theorem equals_trans {caseSensitive : Bool} {first second third : Value}
    (plain : second.isWildcard = false) (plain' : third.isWildcard = false)
    (unmixed : (∀ value ∈ [first, second, third], value.type ≠ .int) ∨
      ∀ value ∈ [first, second, third], value.type ≠ .float)
    (equal : equals caseSensitive first second = true)
    (further : equals caseSensitive second third = true) :
    equals caseSensitive first third = true := by
  rw [equals_of_plain plain] at equal
  rw [equals_of_plain plain'] at further ⊢
  rcases equal with ⟨empty, empty'⟩ | ⟨present, present', same⟩
  · rw [empty'] at further
    exact .inl ⟨empty, (further.resolve_right (by simp)).2⟩
  · rw [present'] at further
    rcases further.resolve_left (by simp) with ⟨_, present'', same'⟩
    exact .inr ⟨present, present'', sameContent_trans unmixed same same'⟩

/-! ## Enumerations -/

theorem sameContent_enum (caseSensitive : Bool) {first second : EnumValue}
    (agree : first.agrees second = true) (value : Value) :
    sameContent caseSensitive (.enum first) value =
      sameContent caseSensitive (.enum second) value := by
  cases value with
  | object record => rfl
  | scalar value =>
    cases value with
    | enum value => exact EnumValue.agrees_congr agree value
    | _ => rfl

theorem equals_enum (caseSensitive : Bool) {first second : EnumValue}
    (agree : first.agrees second = true) (value : Value) :
    equals caseSensitive (.enum first) value = equals caseSensitive (.enum second) value ∧
      equals caseSensitive value (.enum first) = equals caseSensitive value (.enum second) := by
  have contents := sameContent_enum caseSensitive agree value
  have converse := (sameContent_comm caseSensitive value _).trans
    (contents.trans (sameContent_comm caseSensitive _ value))
  simp only [equals, contents, converse]
  exact ⟨rfl, rfl⟩

/-! ## The laws -/

structure EquatesLawfully (caseSensitive : Bool) : Prop where
  reflexive (value : Value) : equals caseSensitive value value = !value.containsNaN
  symmetric {first second : Value} (plain : first.isWildcard = false)
    (plain' : second.isWildcard = false) :
    equals caseSensitive first second = equals caseSensitive second first
  transitive {first second third : Value}
    (plain : ∀ value ∈ [first, second, third], value.isWildcard = false)
    (unmixed : (∀ value ∈ [first, second, third], value.type ≠ .int) ∨
      ∀ value ∈ [first, second, third], value.type ≠ .float)
    (equal : equals caseSensitive first second = true)
    (further : equals caseSensitive second third = true) :
    equals caseSensitive first third = true
  /-- The class of null. -/
  empty (value : Value) : (equals caseSensitive value .null = true ↔
      value = .null ∨ ∃ text, value = .string text ∧ Text.blank text.toList = true) ∧
    equals caseSensitive .null value = equals caseSensitive value .null
  present (value : Value) :
    equals caseSensitive value (.string wildcard) = !equals caseSensitive value .null
  /-- Members may stand in any order. -/
  enumerations {type other : EnumType} (sameName : type.name = other.name)
    (reordered : type.members.Perm other.members) (member : Int64) (value : Value) :
    equals caseSensitive (.enum ⟨type, member⟩) value =
        equals caseSensitive (.enum ⟨other, member⟩) value ∧
      equals caseSensitive value (.enum ⟨type, member⟩) =
        equals caseSensitive value (.enum ⟨other, member⟩)
  records (first second : Record) :
    equals caseSensitive (.object first) (.object second) = true ↔
      first.type.id = second.type.id ∧
        List.Forall₂ (fun value other => value.agrees other = true) first.values second.values

/-- Equality obeys its laws, whether or not case matters. -/
theorem equatesLawfully (caseSensitive : Bool) : EquatesLawfully caseSensitive where
  reflexive := equals_self caseSensitive
  symmetric plain plain' := equals_comm caseSensitive (by simp [Lopsided, plain, plain'])
  transitive {first second third} plain unmixed equal further :=
    equals_trans (plain second (by simp)) (plain third (by simp)) unmixed equal further
  empty value := by
    rw [equals_null_right, equals_null_left]
    exact ⟨isEmpty_iff, rfl⟩
  present value := by rw [equals_wildcard, equals_null_right]
  enumerations sameName reordered _ :=
    equals_enum caseSensitive (EnumValue.agrees_iff.mpr ⟨⟨sameName, reordered⟩, rfl⟩)
  records first second := Record.agrees_iff_forall₂

end Value

end Proviso
