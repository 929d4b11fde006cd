import Mathlib.Data.List.Forall2
import Proviso.Function.Library
import Proviso.Predicate.Run
import Proviso.Proofs.Record.Building
import Proviso.Proofs.Schema.Agreement

/-!
What functions are called with. Where a signature accepts arguments of some types, values of
these types, once they are widened, are values of the parameter types; null is also passed for a
text.
-/

namespace Proviso

namespace Ty

/-! ## Parameters -/

def Takes (parameter : Ty) (argument : Value) : Prop :=
  parameter.admits argument = true ∨ argument = .null ∧ parameter.underlying = .string

theorem isNullable_of_admits_null {type : Ty} (admitted : type.admits .null = true) :
    type.isNullable = true := by
  cases type <;> first | rfl | cases admitted

theorem admits_of_underlying {type : Ty} {value : Value}
    (admitted : type.underlying.admits value = true) : type.admits value = true := by
  cases type with
  | nullable inner => exact admits_nullable.mpr (.inr admitted)
  | _ => exact admitted

theorem admits_underlying {type : Ty} {value : Value} (admitted : type.admits value = true)
    (present : value ≠ .null) : type.underlying.admits value = true := by
  cases type with
  | nullable inner => exact (admits_nullable.mp admitted).resolve_left present
  | _ => exact admitted

@[simp] theorem admits_null_iff {value : Value} : null.admits value = true ↔ value = .null := by
  cases value with
  | object record => simp [admits]
  | scalar value => cases value <;> simp [admits]

@[simp] theorem admits_int_iff {value : Value} :
    int.admits value = true ↔ ∃ number, value = .int number := by
  cases value with
  | object record => simp [admits]
  | scalar value => cases value <;> simp [admits]

@[simp] theorem isString_iff {type : Ty} : Signature.isString type = true ↔ type = .string := by
  cases type <;> simp [Signature.isString]

end Ty

namespace Value

@[simp] theorem widenTo_null (expected : Ty) : widenTo expected .null = .null := by
  unfold widenTo
  split <;> simp_all

theorem widenTo_of_admits {expected : Ty} {value : Value}
    (admitted : expected.admits value = true) : value.widenTo expected = value := by
  unfold widenTo
  split
  case h_1 number isFloat =>
    have present : Value.int number ≠ .null := nofun
    have misfit := Ty.admits_underlying admitted present
    rw [isFloat] at misfit
    cases misfit
  case h_2 => rfl

theorem widenTo_int {expected : Ty} (isFloat : expected.underlying = .float) (number : Int64) :
    widenTo expected (.int number) = .float (intToFloat number) := by
  simp [widenTo, isFloat]

end Value

namespace Signature

/-! ## Conversions -/

/-- Why a value of one type can be passed as a parameter of another one. -/
inductive Converts (parameter argument : Ty) : Prop where
  | same (agree : parameter.agrees argument = true)
  | null (isNull : argument = .null)
    (nullable : parameter.isNullable = true ∨ parameter = .string)
  | lifted (nullable : parameter.isNullable = true ∨ argument.isNullable = false ∨
      parameter.underlying = .string)
    (converts : parameter.underlying.agrees argument.underlying = true ∨
      parameter.underlying = .float ∧ argument.underlying = .int)

theorem converts_of_conversionCost {parameter argument : Ty} {cost : Nat}
    (converts : conversionCost parameter argument = some cost) : Converts parameter argument := by
  unfold conversionCost at converts
  split at converts
  case isTrue agree => exact .same agree
  case isFalse =>
    split at converts
    case h_1 =>
      split at converts
      case isFalse => cases converts
      case isTrue nullable =>
        rw [Bool.or_eq_true, Ty.isString_iff] at nullable
        exact .null rfl nullable
    case h_2 =>
      split at converts
      case isFalse => cases converts
      case isTrue nullable =>
        rw [Bool.or_eq_true, Bool.or_eq_true, Bool.not_eq_true', Ty.isString_iff,
          or_assoc] at nullable
        refine .lifted nullable ?_
        split at converts
        case isTrue agree => exact .inl agree
        case isFalse =>
          split at converts
          case h_1 isFloat isInt => exact .inr ⟨isFloat, isInt⟩
          case h_2 => cases converts

theorem Converts.takes {parameter type : Ty} (converts : Converts parameter type) {value : Value}
    (admitted : type.admits value = true) : parameter.Takes (value.widenTo parameter) := by
  cases converts with
  | same agree =>
    have belongs := Ty.admits_of_agrees agree admitted
    rw [Value.widenTo_of_admits belongs]
    exact .inl belongs
  | null isNull nullable =>
    subst isNull
    rw [Ty.admits_null_iff.mp admitted, Value.widenTo_null]
    rcases nullable with nullable | rfl
    · exact .inl (Ty.admits_null nullable)
    · exact .inr ⟨rfl, rfl⟩
  | lifted nullable converts =>
    by_cases isNull : value = .null
    · subst isNull
      rw [Value.widenTo_null]
      rcases nullable with nullable | strict | isString
      · exact .inl (Ty.admits_null nullable)
      · rw [Ty.isNullable_of_admits_null admitted] at strict
        cases strict
      · exact .inr ⟨rfl, isString⟩
    · have plain := Ty.admits_underlying admitted isNull
      rcases converts with agree | ⟨isFloat, isInt⟩
      · have belongs := Ty.admits_of_underlying (Ty.admits_of_agrees agree plain)
        rw [Value.widenTo_of_admits belongs]
        exact .inl belongs
      · rw [isInt] at plain
        rcases Ty.admits_int_iff.mp plain with ⟨number, rfl⟩
        rw [Value.widenTo_int isFloat]
        exact .inl (Ty.admits_of_underlying (isFloat ▸ rfl))

end Signature

/-! ## Calls -/

/-- A call gets as many arguments as the signature asks for, each of which the parameter at its
place takes. -/
structure Call.Conforms (call : Call) : Prop where
  enough : call.function.signature.parameters.length ≤ call.arguments.length
  exact : call.function.signature.rest = none →
    call.arguments.length = call.function.signature.parameters.length
  takes : ∀ index argument, call.arguments[index]? = some argument →
    ∃ parameter, call.function.signature.parameterAt? index = some parameter ∧
      parameter.Takes argument

namespace Function

@[simp] theorem length_passedFrom (signature : Signature) (index : Nat) (arguments : List Value) :
    (passedFrom signature index arguments).length = arguments.length := by
  induction arguments generalizing index with
  | nil => rfl
  | cons argument rest induction => simp [passedFrom, induction]

theorem takes_of_costFrom {signature : Signature} {index cost : Nat} {types : List Ty}
    {arguments : List Value} (costs : signature.costFrom index types = some cost)
    (admitted : List.Forall₂ (fun type argument => type.admits argument = true) types arguments)
    {place : Nat} {argument : Value}
    (passed : (passedFrom signature index arguments)[place]? = some argument) :
    ∃ parameter, signature.parameterAt? (index + place) = some parameter ∧
      parameter.Takes argument := by
  induction admitted generalizing index cost place with
  | nil => simp [passedFrom] at passed
  | @cons type value types values first _ induction =>
    rw [Signature.costFrom] at costs
    rcases Option.bind_eq_some_iff.mp costs with ⟨parameter, found, costs⟩
    rcases Option.bind_eq_some_iff.mp costs with ⟨here, converts, costs⟩
    rcases Option.bind_eq_some_iff.mp costs with ⟨later, laterCosts, _⟩
    rw [passedFrom, found] at passed
    cases place with
    | zero =>
      cases passed
      have converts := Signature.converts_of_conversionCost converts
      exact ⟨parameter, found, converts.takes first⟩
    | succ place =>
      rcases induction laterCosts passed with ⟨other, otherFound, takes⟩
      refine ⟨other, ?_, takes⟩
      rwa [Nat.add_right_comm] at otherFound

theorem conforms_of_matchCost {function : Function} {cost : Nat} {types : List Ty}
    {arguments : List Value} (costs : function.signature.matchCost types = some cost)
    (admitted : List.Forall₂ (fun type argument => type.admits argument = true) types arguments) :
    (Call.mk function (function.passed arguments)).Conforms := by
  have length : types.length = (function.passed arguments).length := by
    rw [passed, length_passedFrom, admitted.length_eq]
  unfold Signature.matchCost at costs
  split at costs
  case isTrue => cases costs
  case isFalse enough =>
    split at costs
    case isTrue => cases costs
    case isFalse exact =>
      constructor
      case enough => exact length ▸ Nat.le_of_not_lt enough
      case exact =>
        intro isFixed
        have fixed : function.signature.rest.isNone = true := Option.isNone_iff_eq_none.mpr isFixed
        by_contra differs
        exact exact (by simpa [fixed, length] using differs)
      case takes =>
        intro index argument hasArgument
        simpa using takes_of_costFrom costs admitted hasArgument

end Function

namespace Library

variable {library : Library} {name : String} {types : List Ty}

theorem costs_of_foldl_better {best : Option (Nat × Function)} {functions : List Function}
    (bestCosts : ∀ chosen ∈ best, chosen.2.signature.matchCost types = some chosen.1)
    {chosen : Nat × Function} (isChosen : functions.foldl (better types) best = some chosen) :
    chosen.2.signature.matchCost types = some chosen.1 := by
  induction functions generalizing best with
  | nil => exact bestCosts chosen isChosen
  | cons function rest induction =>
    refine induction ?_ isChosen
    intro candidate isCandidate
    unfold better at isCandidate
    split at isCandidate
    case h_1 => exact bestCosts candidate isCandidate
    case h_2 cost costs =>
      cases isCandidate
      exact costs
    case h_3 cost least earlier costs =>
      split at isCandidate
      case isTrue =>
        cases isCandidate
        exact costs
      case isFalse => exact bestCosts candidate isCandidate

theorem matchCost_of_resolve {function : Function}
    (resolved : library.resolve name types = some function) :
    ∃ cost, function.signature.matchCost types = some cost := by
  rcases Option.map_eq_some_iff.mp resolved with ⟨chosen, isChosen, rfl⟩
  have initially : ∀ best ∈ (none : Option (Nat × Function)),
      best.2.signature.matchCost types = some best.1 := nofun
  exact ⟨chosen.1, costs_of_foldl_better initially isChosen⟩

theorem mem_of_foldl_better {best : Option (Nat × Function)} {functions : List Function}
    {chosen : Nat × Function} (isChosen : functions.foldl (better types) best = some chosen) :
    best = some chosen ∨ chosen.2 ∈ functions := by
  induction functions generalizing best with
  | nil => exact .inl isChosen
  | cons function rest induction =>
    rcases induction isChosen with isBetter | member
    · unfold better at isBetter
      split at isBetter
      case h_1 => exact .inl isBetter
      case h_2 =>
        cases isBetter
        exact .inr (List.mem_cons_self ..)
      case h_3 =>
        split at isBetter
        case isTrue =>
          cases isBetter
          exact .inr (List.mem_cons_self ..)
        case isFalse => exact .inl isBetter
    · exact .inr (List.mem_cons_of_mem _ member)

theorem mem_overloads_of_resolve {function : Function}
    (resolved : library.resolve name types = some function) :
    function ∈ library.overloads name := by
  rcases Option.map_eq_some_iff.mp resolved with ⟨chosen, isChosen, rfl⟩
  rcases mem_of_foldl_better isChosen with nothing | member
  · cases nothing
  · exact member

theorem name_of_resolve {function : Function}
    (resolved : library.resolve name types = some function) : function.name = name :=
  beq_iff_eq.mp (List.mem_filter.mp (mem_overloads_of_resolve resolved)).2

end Library

end Proviso
