import Proviso.Proofs.Schema.Agreement
import Proviso.Proofs.Value.Order

/-!
Comparisons written the other way round. Equality of contents is symmetric and orders turn round
when values are exchanged. Only the wildcard tells the sides of an equality apart.
-/

namespace Proviso

namespace Value

open Float.Model (UnpackedFloat)

/-! ## Doubles -/

/-- The order of doubles by their parts; there is none next to what is no number. -/
def partsOrder (first second : Float) : Option Ordering :=
  first.toModel.unpack.compare second.toModel.unpack

theorem lt_iff_partsOrder {first second : Float} :
    first < second ↔ partsOrder first second = some .lt := by
  have unfolded : first < second ↔ (partsOrder first second == some .lt) = true := by
    change Float.lt first second = true ↔ _
    rw [Float.lt, decide_eq_true_iff]
    rfl
  rw [unfolded, beq_iff_eq]

theorem beq_iff_partsOrder {first second : Float} :
    (first == second) = true ↔ partsOrder first second = some .eq := by
  change (partsOrder first second == some .eq) = true ↔ _
  exact beq_iff_eq

theorem unpacked_compare_swap (first second : UnpackedFloat) :
    second.compare first = (first.compare second).map Ordering.swap := by
  have finite (firstMantissa secondMantissa : Nat) (firstExponent secondExponent : Int) :
      (Ord.compare secondExponent firstExponent).then (Ord.compare secondMantissa firstMantissa) =
        ((Ord.compare firstExponent secondExponent).then
          (Ord.compare firstMantissa secondMantissa)).swap := by
    rw [Ordering.swap_then, ← Std.OrientedOrd.eq_swap, ← Std.OrientedOrd.eq_swap]
  cases first with
  | notANumber => cases second <;> rfl
  | infinity sign =>
    cases second with
    | infinity other => cases sign <;> cases other <;> rfl
    | _ => cases sign <;> rfl
  | zero sign =>
    cases second with
    | infinity other => cases other <;> rfl
    | finite other => cases other <;> rfl
    | _ => rfl
  | finite sign mantissa exponent positive =>
    cases second with
    | notANumber => cases sign <;> rfl
    | infinity other => cases sign <;> cases other <;> rfl
    | zero other => cases sign <;> rfl
    | finite other otherMantissa otherExponent otherPositive =>
      cases sign <;> cases other
      · exact congrArg (some ∘ Ordering.swap) (finite ..)
      · rfl
      · rfl
      · exact congrArg some (finite ..)

theorem partsOrder_swap (first second : Float) :
    partsOrder second first = (partsOrder first second).map Ordering.swap :=
  unpacked_compare_swap _ _

theorem floatOrder_eq_partsOrder (first second : Float) :
    floatOrder first second = partsOrder first second := by
  have swapped := partsOrder_swap first second
  simp only [floatOrder, lt_iff_partsOrder, beq_iff_partsOrder, swapped]
  cases partsOrder first second with
  | none => rfl
  | some order => cases order <;> rfl

theorem floatOrder_swap (first second : Float) :
    floatOrder second first = (floatOrder first second).map Ordering.swap := by
  rw [floatOrder_eq_partsOrder, floatOrder_eq_partsOrder, partsOrder_swap]

theorem float_beq_comm (first second : Float) : (first == second) = (second == first) := by
  rw [Bool.eq_iff_iff, beq_iff_partsOrder, beq_iff_partsOrder, partsOrder_swap first second]
  cases partsOrder first second with
  | none => simp
  | some order => cases order <;> simp

end Value

/-! ## Agreement -/

theorem EnumValue.agrees_comm (first second : EnumValue) :
    first.agrees second = second.agrees first := by
  rw [agrees, agrees, EnumType.agrees_comm, Bool.beq_comm]

theorem Scalar.agrees_comm (first second : Scalar) : first.agrees second = second.agrees first := by
  cases first <;> cases second
  all_goals
    first
    | rfl
    | exact Bool.beq_comm
    | exact Value.float_beq_comm _ _
    | exact EnumValue.agrees_comm _ _

mutual
theorem Value.agrees_comm : (first second : Value) → first.agrees second = second.agrees first
  | .scalar first, .scalar second => Scalar.agrees_comm first second
  | .object first, .object second => Record.agrees_comm first second
  | .scalar _, .object _ => rfl
  | .object _, .scalar _ => rfl

theorem Record.agrees_comm : (first second : Record) → first.agrees second = second.agrees first
  | ⟨type, values⟩, ⟨other, others⟩ => by
    rw [Record.agrees, Record.agrees, valuesAgree_comm values others, Bool.beq_comm]

theorem valuesAgree_comm : (values others : List Value) →
    valuesAgree values others = valuesAgree others values
  | [], [] => rfl
  | [], _ :: _ => rfl
  | _ :: _, [] => rfl
  | first :: rest, second :: others => by
    rw [valuesAgree, valuesAgree, Value.agrees_comm first second, valuesAgree_comm rest others]
end

/-! ## Orders -/

theorem Text.order_swap (first second : List Char) :
    Text.order second first = (Text.order first second).swap := by
  induction first generalizing second with
  | nil => cases second <;> rfl
  | cons char rest induction =>
    cases second with
    | nil => rfl
    | cons other others =>
      rw [order, order]
      rcases Nat.lt_trichotomy char.toNat other.toNat with less | equal | greater
      · rw [if_neg (Nat.lt_asymm less), if_pos less, if_pos less]
        rfl
      · simp only [equal, Nat.lt_irrefl, if_false]
        exact induction others
      · rw [if_pos greater, if_neg (Nat.lt_asymm greater), if_pos greater]
        rfl

theorem Calendar.Moment.compareParts_swap (first second : List Int) :
    compareParts second first = (compareParts first second).swap := by
  induction first generalizing second with
  | nil => cases second <;> rfl
  | cons part rest induction =>
    cases second with
    | nil => rfl
    | cons other others =>
      rw [compareParts, compareParts]
      rcases Int.lt_trichotomy part other with less | equal | greater
      · rw [if_neg (Int.lt_asymm less), if_pos less, if_pos less]
        rfl
      · simp only [equal, Int.lt_irrefl, if_false]
        exact induction others
      · rw [if_pos greater, if_neg (Int.lt_asymm greater), if_pos greater]
        rfl

namespace Value

theorem sameContent_comm (caseSensitive : Bool) (first second : Value) :
    sameContent caseSensitive first second = sameContent caseSensitive second first := by
  cases first with
  | object record =>
    cases second with
    | object other => exact Record.agrees_comm record other
    | scalar value => cases value <;> rfl
  | scalar value =>
    cases second with
    | object other => cases value <;> rfl
    | scalar other =>
      cases value <;> cases other
      all_goals
        first
        | rfl
        | exact Bool.beq_comm
        | exact float_beq_comm _ _
        | exact EnumValue.agrees_comm _ _

theorem orderContent_swap {caseSensitive : Bool} {first second : Value} {result : Option Ordering}
    (ordered : orderContent caseSensitive first second = .ok result) :
    orderContent caseSensitive second first = .ok (result.map Ordering.swap) := by
  cases first with
  | object record =>
    cases second with
    | object other => cases ordered
    | scalar value => cases value <;> cases ordered; rfl
  | scalar value =>
    cases second with
    | object other => cases value <;> cases ordered; rfl
    | scalar other =>
      cases value <;> cases other <;> cases ordered
      all_goals
        first
        | rfl
        | exact congrArg (Except.ok ∘ some) Std.OrientedOrd.eq_swap
        | exact congrArg Except.ok (floatOrder_swap _ _)
        | exact congrArg (Except.ok ∘ some) (Text.order_swap _ _)
        | exact congrArg (Except.ok ∘ some) (Calendar.Moment.compareParts_swap _ _)

theorem orderedTarget_eq {dependent target : Value}
    (plain : target.isWildcard = true → dependent.isString = true) :
    orderedTarget dependent target = target := by
  unfold orderedTarget
  split
  case isTrue wild =>
    rw [Bool.and_eq_true] at wild
    simp [plain wild.1] at wild
  case isFalse => rfl

theorem order_null_left (caseSensitive : Bool) (target : Value) :
    order caseSensitive .null target = .ok none :=
  orderContent_null_left caseSensitive _

theorem order_null_right (caseSensitive : Bool) (dependent : Value) :
    order caseSensitive dependent .null = .ok none :=
  orderContent_null_right caseSensitive _

theorem isString_of_family {value : Value} (family : value.type.plainFamily = .string) :
    value.isString = true := by
  cases value with
  | object record => cases family
  | scalar value => cases value <;> first | rfl | cases family

theorem family_of_isString {value : Value} (isString : value.isString = true) :
    value.type.plainFamily = .string := by
  rcases isString_iff.mp isString with ⟨text, rfl⟩
  rfl

/-- Values that can be put in order either way round have one order, which turns round. -/
theorem order_swap (caseSensitive : Bool) {first second : Value}
    (orderable : first.Orderable second) (converse : second.Orderable first) :
    ∃ result, order caseSensitive first second = .ok result ∧
      order caseSensitive second first = .ok (result.map Ordering.swap) := by
  by_cases firstNull : first = .null
  · subst firstNull
    exact ⟨none, order_null_left .., order_null_right ..⟩
  by_cases secondNull : second = .null
  · subst secondNull
    exact ⟨none, order_null_right .., order_null_left ..⟩
  have strings : first.isString = second.isString := by
    cases orderable with
    | nullDependent isNull => exact absurd isNull firstNull
    | nullTarget isNull => exact absurd isNull secondNull
    | family same _ =>
      rw [Bool.eq_iff_iff]
      constructor
      · exact fun isString => isString_of_family (same ▸ family_of_isString isString)
      · exact fun isString => isString_of_family (same.trans (family_of_isString isString))
    | wildcard wild =>
      have secondString := isString_of_isWildcard wild
      rw [secondString]
      cases converse with
      | nullDependent isNull => exact absurd isNull secondNull
      | nullTarget isNull => exact absurd isNull firstNull
      | wildcard wild => exact isString_of_isWildcard wild
      | family same _ => exact isString_of_family (same ▸ family_of_isString secondString)
  rcases order_of_orderable caseSensitive orderable with ⟨result, ordered⟩
  refine ⟨result, ordered, ?_⟩
  have plain : orderedTarget first second = second :=
    orderedTarget_eq fun wild => strings.trans (isString_of_isWildcard wild)
  have plainConverse : orderedTarget second first = first :=
    orderedTarget_eq fun wild => strings.symm.trans (isString_of_isWildcard wild)
  rw [order, plain] at ordered
  rw [order, plainConverse]
  exact orderContent_swap ordered

/-! ## Relations -/

theorem not_isEmpty_of_isWildcard {value : Value} (wild : value.isWildcard = true) :
    value.isEmpty = false := by
  unfold isWildcard at wild
  split at wild
  case h_1 =>
    rw [beq_iff_eq.mp wild]
    rfl
  case h_2 => cases wild

theorem equals_of_isWildcard (caseSensitive : Bool) {dependent target : Value}
    (present : dependent.isEmpty = false) (wild : target.isWildcard = true) :
    equals caseSensitive dependent target = true := by
  rw [equals, present, wild]
  rfl

/-- Whether an equality can tell its sides apart: one of them is the wildcard, and the other is
something else, but not empty. -/
def Lopsided (first second : Value) : Prop :=
  first.isWildcard ≠ second.isWildcard ∧ first.isEmpty = false ∧ second.isEmpty = false

theorem equals_comm (caseSensitive : Bool) {first second : Value}
    (even : ¬ first.Lopsided second) :
    equals caseSensitive first second = equals caseSensitive second first := by
  have wildPresent {value : Value} (empty : value.isEmpty = true) : value.isWildcard = false := by
    cases wild : value.isWildcard with
    | false => rfl
    | true => rw [not_isEmpty_of_isWildcard wild] at empty; cases empty
  unfold equals
  cases firstEmpty : first.isEmpty with
  | true =>
    cases second.isEmpty <;> simp [wildPresent firstEmpty]
  | false =>
    cases secondEmpty : second.isEmpty with
    | true => simp [wildPresent secondEmpty]
    | false =>
      have same : first.isWildcard = second.isWildcard := by
        by_contra different
        exact even ⟨different, firstEmpty, secondEmpty⟩
      rw [same, sameContent_comm]

theorem sameContent_of_isWildcard {dependent target : Value} (wild : dependent.isWildcard = true)
    (plain : target.isWildcard = false) : sameContent true dependent target = false := by
  rcases isString_iff.mp (isString_of_isWildcard wild) with ⟨text, rfl⟩
  have isWildcard : text = wildcard := beq_iff_eq.mp wild
  subst isWildcard
  cases target with
  | object record => rfl
  | scalar value =>
    cases value with
    | string other =>
      have different : other ≠ wildcard := beq_eq_false_iff_ne.mp plain
      exact beq_eq_false_iff_ne.mpr fun same => different (String.toList_injective same).symm
    | _ => rfl

theorem equals_of_isWildcard_left {dependent target : Value} (wild : dependent.isWildcard = true)
    (plain : target.isWildcard = false) : equals true dependent target = false := by
  simp [equals, not_isEmpty_of_isWildcard wild, plain, sameContent_of_isWildcard wild plain]

/-- Where case matters, an equality does tell its sides apart if it can. -/
theorem equals_ne_of_lopsided {first second : Value} (lopsided : first.Lopsided second) :
    equals true first second ≠ equals true second first := by
  rcases lopsided with ⟨different, firstPresent, secondPresent⟩
  cases firstWild : first.isWildcard with
  | true =>
    have secondPlain : second.isWildcard = false := by simpa [firstWild] using different
    rw [equals_of_isWildcard_left firstWild secondPlain,
      equals_of_isWildcard true secondPresent firstWild]
    exact Bool.false_ne_true
  | false =>
    have secondWild : second.isWildcard = true := by simpa [firstWild] using different
    rw [equals_of_isWildcard true firstPresent secondWild,
      equals_of_isWildcard_left secondWild firstWild]
    exact Bool.false_ne_true.symm

/-- A comparison written the other way round says the same, unless it is an equality that can
tell its sides apart. -/
theorem compare_converse (caseSensitive : Bool) {relation : Relation} {first second : Value}
    (orderable : relation.isOrdering = true → first.Orderable second ∧ second.Orderable first)
    (even : relation.isOrdering = true ∨ ¬ first.Lopsided second) :
    second.compare relation.converse caseSensitive first =
      first.compare relation caseSensitive second := by
  cases relation with
  | equal =>
    exact congrArg Except.ok (equals_comm caseSensitive (even.resolve_left Bool.false_ne_true)).symm
  | notEqual =>
    have same := equals_comm caseSensitive (even.resolve_left Bool.false_ne_true)
    exact congrArg (fun holds => Except.ok !holds) same.symm
  | _ =>
    rcases order_swap caseSensitive (orderable rfl).1 (orderable rfl).2 with
      ⟨result, ordered, swapped⟩
    simp only [compare, Relation.converse, ordered, swapped]
    cases result with
    | none => rfl
    | some order => cases order <;> rfl

end Value

end Proviso
