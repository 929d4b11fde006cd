import Proviso.Schema.Family
import Proviso.Value.Comparison

/-!
When values can be put in order. A type whose family is ordered has only null and values of that
family; of two such values, and next to null or a wildcard, the order is always defined. Equality
is defined between all values.
-/

namespace Proviso

/-! ## Families -/

namespace Ty

theorem plainFamily_eq_of_agrees {first second : Ty} (agree : first.agrees second = true) :
    first.plainFamily = second.plainFamily := by
  cases first <;> cases second <;> first | rfl | cases agree

theorem family_eq_of_sameUnderlying {first second : Ty}
    (same : first.sameUnderlying second = true) : first.family = second.family := by
  unfold sameUnderlying at same
  unfold family
  generalize first.underlying = first at same
  generalize second.underlying = second at same
  rcases Bool.or_eq_true_iff.mp same with numeric | agree
  · cases first <;> cases second <;> first | rfl | simp [isNumeric] at numeric
  · cases first with
    | nullable inner =>
      cases second with
      | nullable other =>
        have innerFamily : inner.plainFamily = other.plainFamily :=
          plainFamily_eq_of_agrees agree
        cases inner <;> cases other <;> first | rfl | exact innerFamily | cases agree
      | _ => cases agree
    | _ => cases second <;> first | rfl | cases agree

theorem family_eq_of_isOf {type : Ty} {family : Family} (belongs : type.isOf family = true)
    (ordered : family.isOrdered = true) : type.family = family := by
  have sameFamily : type.underlying.plainFamily = family := beq_iff_eq.mp belongs
  subst sameFamily
  unfold Ty.family
  cases plain : type.underlying <;> first | rfl | simp_all [plainFamily, Family.isOrdered]

theorem plain_of_isOrdered {type : Ty} (ordered : type.family.isOrdered = true) :
    ∃ plain : Ty, type.family = plain.plainFamily ∧
      ∀ value, type.admits value = true → value = .null ∨ plain.admits value = true := by
  have nullOrInner (inner : Ty) (value : Value) (admitted : (nullable inner).admits value = true) :
      value = .null ∨ inner.admits value = true := by
    cases value with
    | scalar value => cases value <;> first | exact .inl rfl | exact .inr admitted
    | object record => exact .inr admitted
  match type with
  | .nullable (.nullable inner) =>
    refine ⟨inner, ?_, fun value admitted => ?_⟩
    · cases inner <;> first | rfl | cases ordered
    · rcases nullOrInner _ value admitted with isNull | admitted
      · exact .inl isNull
      · exact nullOrInner inner value admitted
  | .nullable .bool | .nullable .int | .nullable .float | .nullable .string
  | .nullable .datetime | .nullable .timespan | .nullable .guid | .nullable (.enum _)
  | .nullable (.object _) | .nullable .null => exact ⟨_, rfl, nullOrInner _⟩
  | .bool | .int | .float | .string | .datetime | .timespan | .guid | .enum _ | .object _ | .null =>
    exact ⟨_, rfl, fun _ admitted => .inr admitted⟩

end Ty

namespace Value

theorem family_of_admits {type : Ty} {value : Value} (admitted : type.admits value = true)
    (ordered : type.family.isOrdered = true) :
    value = .null ∨ value.type.plainFamily = type.family := by
  rcases Ty.plain_of_isOrdered ordered with ⟨plain, sameFamily, nullOrPlain⟩
  rw [sameFamily] at ordered ⊢
  rcases nullOrPlain value admitted with isNull | admitted
  · exact .inl isNull
  · right
    cases plain <;> cases ordered
    all_goals
      cases value with
      | scalar value => cases value <;> first | rfl | cases admitted
      | object record => cases admitted

/-! ## Order -/

/-- Why two values can be put in order. -/
inductive Orderable (dependent target : Value) : Prop where
  | nullDependent (isNull : dependent = .null)
  | nullTarget (isNull : target = .null)
  | wildcard (isWildcard : target.isWildcard = true)
  | family (same : dependent.type.plainFamily = target.type.plainFamily)
    (ordered : target.type.plainFamily.isOrdered = true)

theorem orderContent_of_family (caseSensitive : Bool) {dependent target : Value}
    (same : dependent.type.plainFamily = target.type.plainFamily)
    (ordered : target.type.plainFamily.isOrdered = true) :
    ∃ result, orderContent caseSensitive dependent target = .ok result := by
  cases target with
  | object record => cases ordered
  | scalar target =>
    cases dependent with
    | object record =>
      rw [← same] at ordered
      cases ordered
    | scalar dependent =>
      cases target <;> cases ordered
      all_goals cases dependent <;> first | exact ⟨_, rfl⟩ | cases same

@[simp] theorem orderContent_null_left (caseSensitive : Bool) (target : Value) :
    orderContent caseSensitive .null target = .ok none :=
  rfl

@[simp] theorem orderContent_null_right (caseSensitive : Bool) (dependent : Value) :
    orderContent caseSensitive dependent .null = .ok none := by
  cases dependent with
  | object record => rfl
  | scalar dependent => cases dependent <;> rfl

theorem isString_iff {value : Value} : value.isString = true ↔ ∃ text, value = .string text := by
  unfold isString
  split <;> simp_all

theorem isString_of_isWildcard {value : Value} (wild : value.isWildcard = true) :
    value.isString = true := by
  unfold isWildcard at wild
  split at wild
  · rfl
  · cases wild

theorem order_of_orderable (caseSensitive : Bool) {dependent target : Value}
    (orderable : Orderable dependent target) :
    ∃ result, order caseSensitive dependent target = .ok result := by
  unfold order orderedTarget
  split
  case isTrue => exact ⟨none, orderContent_null_right caseSensitive dependent⟩
  case isFalse notFree =>
    cases orderable with
    | nullDependent isNull => exact ⟨none, isNull ▸ orderContent_null_left caseSensitive target⟩
    | nullTarget isNull => exact ⟨none, isNull ▸ orderContent_null_right caseSensitive dependent⟩
    | wildcard isWildcard =>
      -- A text is put in order with the wildcard as with any other text.
      have isString : dependent.isString = true := by simpa [isWildcard] using notFree
      rcases isString_iff.mp isString with ⟨text, rfl⟩
      rcases isString_iff.mp (isString_of_isWildcard isWildcard) with ⟨other, rfl⟩
      exact ⟨_, rfl⟩
    | family same ordered => exact orderContent_of_family caseSensitive same ordered

/-- A comparison is defined unless it asks for an order that there is not. -/
theorem compare_of_orderable {relation : Relation} (caseSensitive : Bool)
    {dependent target : Value}
    (orderable : relation.isOrdering = true → Orderable dependent target) :
    ∃ holds, compare relation caseSensitive dependent target = .ok holds := by
  cases relation with
  | equal => exact ⟨_, rfl⟩
  | notEqual => exact ⟨_, rfl⟩
  | _ =>
    rcases order_of_orderable caseSensitive (orderable rfl) with ⟨result, ordered⟩
    exact ⟨_, congrArg (Except.map _) ordered⟩

end Value

end Proviso
