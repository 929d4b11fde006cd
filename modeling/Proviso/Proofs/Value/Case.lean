import Mathlib.Data.List.Forall2
import Proviso.Proofs.Text.Lowercase
import Proviso.Proofs.Value.Equality

/-!
Values that are the same but for letter case. Where case does not matter, a comparison cannot tell
them apart: what is empty, what is the wildcard, what is equal and what is less are all decided by
the lower case of texts. Only records are compared with regard to case, whatever is asked for.
-/

namespace Proviso

/-! ## The same but for case -/

inductive Scalar.SameButCase : Scalar → Scalar → Prop where
  | same (value : Scalar) : SameButCase value value
  | agreeing {first second : Scalar} (agree : first.agrees second = true) :
    SameButCase first second
  | lowered {first second : String}
    (same : Text.lowercase first.toList = Text.lowercase second.toList) :
    SameButCase (.string first) (.string second)

/-- Values that are equal, except that texts in them, at any depth, only have the same lower
case. -/
inductive Value.SameButCase : Value → Value → Prop where
  | scalar {first second : Scalar} (same : first.SameButCase second) :
    SameButCase (.scalar first) (.scalar second)
  | object {first second : Record} (sameType : first.type.id = second.type.id)
    (values : List.Forall₂ SameButCase first.values second.values) :
    SameButCase (.object first) (.object second)

def Record.SameButCase (first second : Record) : Prop :=
  Value.SameButCase (.object first) (.object second)

/-- What values are that are the same but for case: identical, texts, or values of a kind whose
equality is coarser than identity. -/
inductive Scalar.CaseVariant : Scalar → Scalar → Prop where
  | same (value : Scalar) : CaseVariant value value
  | lowered {first second : String}
    (same : Text.lowercase first.toList = Text.lowercase second.toList) :
    CaseVariant (.string first) (.string second)
  | float {first second : Float} (equal : (first == second) = true) :
    CaseVariant (.float first) (.float second)
  | enum {first second : EnumValue} (agree : first.agrees second = true) :
    CaseVariant (.enum first) (.enum second)

theorem Scalar.SameButCase.variant {first second : Scalar} (same : first.SameButCase second) :
    first.CaseVariant second := by
  cases same with
  | same => exact .same _
  | lowered same => exact .lowered same
  | agreeing agree =>
    cases first <;> cases second <;> first | cases agree; done | skip
    case float.float => exact .float agree
    case enum.enum => exact .enum agree
    case null.null => exact .same _
    all_goals
      rw [agrees, beq_iff_eq] at agree
      exact agree ▸ .same _

namespace Value

/-! ## Emptiness, the wildcard and texts -/

theorem SameButCase.isEmpty_eq {first second : Value} (same : first.SameButCase second) :
    first.isEmpty = second.isEmpty := by
  cases same with
  | object => rfl
  | scalar same =>
    cases same.variant with
    | lowered lower =>
      change Text.blank _ = Text.blank _
      rw [← Text.blank_lowercase, lower, Text.blank_lowercase]
    | _ => rfl

theorem SameButCase.isWildcard_eq {first second : Value} (same : first.SameButCase second) :
    first.isWildcard = second.isWildcard := by
  have asterisk (text : String) :
      (text == wildcard) = true ↔ Text.lowercase text.toList = ['*'] := by
    rw [Text.lowercase_eq_asterisk, beq_iff_eq, ← String.toList_inj]
    rfl
  cases same with
  | object => rfl
  | scalar same =>
    cases same.variant with
    | @lowered first second lower =>
      change (first == wildcard) = (second == wildcard)
      rw [Bool.eq_iff_iff, asterisk, asterisk, lower]
    | _ => rfl

theorem SameButCase.isString_eq {first second : Value} (same : first.SameButCase second) :
    first.isString = second.isString := by
  cases same with
  | object => rfl
  | scalar same => cases same.variant <;> rfl

def isObject : Value → Bool
  | .object _ => true
  | _ => false

/-! ## Contents -/

theorem floatOrder_congr {first second : Float} (equal : (first == second) = true)
    (number : Float) : floatOrder first number = floatOrder second number := by
  rcases float_beq_iff.mp equal with ⟨parts, isFirst, isSecond⟩
  rw [floatOrder_eq_ranks, floatOrder_eq_ranks, isFirst, isSecond]

theorem float_beq_congr {first second : Float} (equal : (first == second) = true)
    (number : Float) : (first == number) = (second == number) := by
  rw [Bool.eq_iff_iff, float_beq_iff, float_beq_iff]
  rcases float_beq_iff.mp equal with ⟨parts, isFirst, isSecond⟩
  rw [isFirst, isSecond]

theorem sameContent_of_variant {first second : Scalar} (variant : first.CaseVariant second)
    (value : Value) :
    sameContent false (.scalar first) value = sameContent false (.scalar second) value := by
  cases variant with
  | same => rfl
  | @lowered text other lower =>
    cases value with
    | object record => rfl
    | scalar value =>
      cases value with
      | string third =>
        change (Text.lowercase text.toList == _) = (Text.lowercase other.toList == _)
        rw [lower]
      | _ => rfl
  | float equal =>
    cases value with
    | object record => rfl
    | scalar value => cases value <;> first | rfl | exact float_beq_congr equal _
  | enum agree => exact sameContent_enum false agree value

theorem SameButCase.sameContent_eq {first second : Value} (same : first.SameButCase second)
    {value : Value} (single : first.isObject = false ∨ value.isObject = false) :
    sameContent false first value = sameContent false second value := by
  cases same with
  | scalar same => exact sameContent_of_variant same.variant value
  | object =>
    cases value with
    | object => exact absurd single (by simp [isObject])
    | scalar value => cases value <;> rfl

/-! ## Order -/

theorem orderContent_of_variant {first second : Scalar} (variant : first.CaseVariant second)
    (value : Value) :
    orderContent false (.scalar first) value = orderContent false (.scalar second) value ∧
      orderContent false value (.scalar first) = orderContent false value (.scalar second) := by
  cases variant with
  | same => exact ⟨rfl, rfl⟩
  | @lowered text other lower =>
    cases value with
    | object record => exact ⟨rfl, rfl⟩
    | scalar value =>
      cases value with
      | string third =>
        constructor
        · change Except.ok (some (Text.order (Text.lowercase text.toList) _)) = _
          rw [lower]
          rfl
        · change Except.ok (some (Text.order _ (Text.lowercase text.toList))) = _
          rw [lower]
          rfl
      | _ => exact ⟨rfl, rfl⟩
  | @float first second equal =>
    have swapped (number : Float) : floatOrder number first = floatOrder number second := by
      rw [floatOrder_swap, floatOrder_congr equal, ← floatOrder_swap]
    cases value with
    | object record => exact ⟨rfl, rfl⟩
    | scalar value =>
      cases value with
      | int | float =>
        exact ⟨congrArg Except.ok (floatOrder_congr equal _), congrArg Except.ok (swapped _)⟩
      | _ => exact ⟨rfl, rfl⟩
  | enum agree =>
    cases value with
    | object record => exact ⟨rfl, rfl⟩
    | scalar value => cases value <;> exact ⟨rfl, rfl⟩

theorem SameButCase.orderContent_eq {first second : Value} (same : first.SameButCase second)
    (value : Value) : orderContent false first value = orderContent false second value ∧
      orderContent false value first = orderContent false value second := by
  cases same with
  | scalar same => exact orderContent_of_variant same.variant value
  | object =>
    cases value with
    | object => exact ⟨rfl, rfl⟩
    | scalar value => cases value <;> exact ⟨rfl, rfl⟩

/-! ## Comparisons -/

theorem SameButCase.isObject_eq {first second : Value} (same : first.SameButCase second) :
    first.isObject = second.isObject := by
  cases same <;> rfl

/-- A comparison without regard to case cannot tell values apart that are the same but for case,
unless it is one of two records. -/
theorem SameButCase.compare_eq {relation : Relation} {dependent dependent' target target' : Value}
    (same : dependent.SameButCase dependent') (targetSame : target.SameButCase target')
    (single : dependent.isObject = false ∨ target.isObject = false) :
    compare relation false dependent target = compare relation false dependent' target' := by
  have contents : sameContent false dependent target = sameContent false dependent' target' := by
    rw [same.sameContent_eq single, sameContent_comm, sameContent_comm false dependent']
    exact targetSame.sameContent_eq (same.isObject_eq ▸ single.symm)
  have equal : equals false dependent target = equals false dependent' target' := by
    rw [equals, equals, same.isEmpty_eq, targetSame.isEmpty_eq, targetSame.isWildcard_eq, contents]
  have ordered : order false dependent target = order false dependent' target' := by
    unfold order orderedTarget
    rw [targetSame.isWildcard_eq, same.isString_eq]
    split
    · exact (same.orderContent_eq .null).1
    · exact (same.orderContent_eq target).1.trans (targetSame.orderContent_eq dependent').2
  cases relation <;> simp only [compare, equal, ordered]

end Value

end Proviso
