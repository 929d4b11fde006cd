import Proviso.Proofs.Grammar.Conditions
import Proviso.Proofs.Value.Order

/-!
What the reading of a condition guarantees of every place in its tree: names and calls are
resolved, operands of connectives are booleans, and the sides of a comparison that asks for an
order can be put in order.
-/

namespace Proviso

theorem Ty.isOf_orNull (type : Ty) (family : Family) :
    type.orNull.isOf family = type.isOf family := by
  cases type <;> rfl

namespace Expr

open Outcome

/-! ## Parts -/

mutual
def parts : Expr → List Expr
  | .literal value span => [.literal value span]
  | .property path slots type span => [.property path slots type span]
  | .constant name value span => [.constant name value span]
  | .call function arguments span => .call function arguments span :: partsOf arguments
  | .not operand span => .not operand span :: parts operand
  | .and left right => .and left right :: (parts left ++ parts right)
  | .or left right => .or left right :: (parts left ++ parts right)
  | .relational relation left right type =>
    .relational relation left right type :: (parts left ++ parts right)

def partsOf : List Expr → List Expr
  | [] => []
  | expr :: rest => parts expr ++ partsOf rest
end

theorem partsOf_eq_flatMap (exprs : List Expr) : partsOf exprs = exprs.flatMap parts := by
  induction exprs with
  | nil => rfl
  | cons expr rest induction => simp [partsOf, induction]

theorem mem_parts_self (expr : Expr) : expr ∈ expr.parts := by
  cases expr <;> simp [parts]

/-! ## Sides of a comparison -/

inductive ComparedBy (left right : Expr) : Option Ty → Prop where
  | free (leftFree : left.isNullLiteral = true)
    (rightFree : right.isNullLiteral = true ∨ right.isWildcard = true) : ComparedBy left right none
  | freeDependent (leftFree : left.isNullLiteral = true) : ComparedBy left right (some right.type)
  | freeTarget (rightFree : right.isNullLiteral = true ∨ right.isWildcard = true) :
    ComparedBy left right (some left.type)
  | dateTarget (moments : left.type.isOf .datetime = true)
    (denotes : right.dateLiteral?.isSome = true) : ComparedBy left right (some left.type)
  | dateDependent (moments : right.type.isOf .datetime = true)
    (denotes : left.dateLiteral?.isSome = true) : ComparedBy left right (some right.type)
  | alike (same : left.type.sameUnderlying right.type = true) :
    ComparedBy left right (some left.type)

theorem comparedBy_of_comparedType {relation : Relation} {left right : Expr}
    {compared : Option Ty} (checked : comparedType relation left right = .ok compared) :
    ComparedBy left right compared := by
  simp only [comparedType] at checked
  split at checked
  case isTrue bothFree =>
    cases checked
    rw [Bool.and_eq_true, Bool.or_eq_true] at bothFree
    exact .free bothFree.1 bothFree.2
  case isFalse =>
    split at checked
    case isTrue leftFree =>
      cases checked
      exact .freeDependent leftFree
    case isFalse =>
      split at checked
      case isTrue rightFree =>
        cases checked
        exact .freeTarget (Bool.or_eq_true_iff.mp rightFree)
      case isFalse =>
        split at checked
        case isTrue dated =>
          cases checked
          rw [Bool.and_eq_true] at dated
          exact .dateTarget dated.1 dated.2
        case isFalse =>
          split at checked
          case isTrue dated =>
            cases checked
            rw [Bool.and_eq_true] at dated
            exact .dateDependent dated.1 dated.2
          case isFalse =>
            split at checked
            case isTrue same =>
              cases checked
              exact .alike same
            case isFalse => cases checked

theorem comparedBy_of_operandType {relation : Relation} {left right : Expr} {type : Ty}
    (consistent : operandType relation left right = .ok type) :
    ∃ compared, ComparedBy left right compared ∧ type = commonType compared left right ∧
      ∀ basis, compared = some basis → relation.isOrdering = true →
        basis.family.isOrdered = true := by
  rcases bind_eq_ok.mp consistent with ⟨compared, basis, consistent⟩
  refine ⟨compared, comparedBy_of_comparedType basis, ?_⟩
  cases compared with
  | none =>
    cases consistent
    exact ⟨rfl, nofun⟩
  | some basis =>
    dsimp only at consistent
    split at consistent
    case isTrue => cases consistent
    case isFalse ordered =>
      cases consistent
      refine ⟨rfl, fun _ equal ordering => ?_⟩
      cases equal
      simpa [ordering] using ordered

theorem isOf_commonType (type : Ty) (left right : Expr) :
    (commonType (some type) left right).isOf .datetime = type.isOf .datetime := by
  have unlifted : (if type.isOf .datetime then Ty.datetime else type).isOf .datetime =
      type.isOf .datetime := by
    split
    case isTrue isMoment => exact isMoment.symm
    case isFalse => rfl
  simp only [commonType]
  split
  case isTrue => exact (Ty.isOf_orNull _ _).trans unlifted
  case isFalse => exact unlifted

/-- Why the sides of a comparison can be put in order: one of them is free, or both are of one
family that has an order. -/
inductive Orderable (left right : Expr) : Prop where
  | nullDependent (isNull : left.isNullLiteral = true)
  | nullTarget (isNull : right.isNullLiteral = true)
  | wildcard (isWildcard : right.isWildcard = true)
  | family (same : left.type.family = right.type.family)
    (ordered : left.type.family.isOrdered = true)

theorem Orderable.of_free {left right : Expr}
    (rightFree : right.isNullLiteral = true ∨ right.isWildcard = true) : Orderable left right :=
  rightFree.elim .nullTarget .wildcard

theorem orderable_of_operandType {relation : Relation} {left right : Expr} {type : Ty}
    (consistent : operandType relation left right = .ok type)
    (ordering : relation.isOrdering = true) (noMoments : type.isOf .datetime = false) :
    Orderable left right := by
  rcases comparedBy_of_operandType consistent with ⟨compared, basis, rfl, ordered⟩
  cases basis with
  | free leftFree _ => exact .nullDependent leftFree
  | freeDependent leftFree => exact .nullDependent leftFree
  | freeTarget rightFree => exact .of_free rightFree
  | dateTarget moments _ => simp [isOf_commonType, moments] at noMoments
  | dateDependent moments _ => simp [isOf_commonType, moments] at noMoments
  | alike same => exact .family (Ty.family_eq_of_sameUnderlying same) (ordered _ rfl ordering)

/-! ## Dates that are said as texts -/

theorem withDate_of_isNullLiteral {expr : Expr} (isNull : expr.isNullLiteral = true) :
    expr.withDate = expr := by
  unfold isNullLiteral at isNull
  split at isNull
  · rfl
  · cases isNull

theorem withDate_of_isWildcard {expr : Expr} (wild : expr.isWildcard = true) :
    expr.withDate = expr := by
  have denotes : expr.stringLiteral? = some wildcard := beq_iff_eq.mp wild
  simp [withDate, dateLiteral?, denotes]

theorem family_withDate {expr : Expr} (family : expr.type.family = .datetime) :
    expr.withDate.type.family = .datetime := by
  unfold withDate
  split
  · rfl
  · exact family

theorem family_withDate_of_dateLiteral {expr : Expr} (denotes : expr.dateLiteral?.isSome = true) :
    expr.withDate.type.family = .datetime := by
  rcases Option.isSome_iff_exists.mp denotes with ⟨moment, denotes⟩
  rw [withDate, denotes]
  rfl

theorem Orderable.of_moments {left right : Expr} (leftMoments : left.type.family = .datetime)
    (rightMoments : right.type.family = .datetime) : Orderable left right :=
  .family (leftMoments.trans rightMoments.symm) (leftMoments ▸ rfl)

theorem orderable_withDate {relation : Relation} {left right : Expr} {type : Ty}
    (consistent : operandType relation left right = .ok type)
    (moments : type.isOf .datetime = true) : Orderable left.withDate right.withDate := by
  rcases comparedBy_of_operandType consistent with ⟨compared, basis, rfl, _⟩
  cases basis with
  | free leftFree _ => exact .nullDependent (by rwa [withDate_of_isNullLiteral leftFree])
  | freeDependent leftFree => exact .nullDependent (by rwa [withDate_of_isNullLiteral leftFree])
  | freeTarget rightFree =>
    rcases rightFree with isNull | isWildcard
    · exact .nullTarget (by rwa [withDate_of_isNullLiteral isNull])
    · exact .wildcard (by rwa [withDate_of_isWildcard isWildcard])
  | dateTarget leftMoments denotes =>
    exact .of_moments (family_withDate (Ty.family_eq_of_isOf leftMoments rfl))
      (family_withDate_of_dateLiteral denotes)
  | dateDependent rightMoments denotes =>
    exact .of_moments (family_withDate_of_dateLiteral denotes)
      (family_withDate (Ty.family_eq_of_isOf rightMoments rfl))
  | alike same =>
    rw [isOf_commonType] at moments
    have leftMoments := Ty.family_eq_of_isOf moments rfl
    have rightMoments := (Ty.family_eq_of_sameUnderlying same).symm.trans leftMoments
    exact .of_moments (family_withDate leftMoments) (family_withDate rightMoments)

/-! ## Checked expressions -/

/-- What holds of an expression that was read in a scope, and of everything that occurs in it. -/
inductive Checked (scope : Scope) : Expr → Prop where
  | literal {value : Scalar} {span : Span} (plain : ∀ member, value ≠ .enum member) :
    Checked scope (.literal value span)
  | property {path : String} {slots : List Nat} {type : Ty} {span : Span}
    (found : scope.context.resolve false (Text.segments path) = .ok (slots, type)) :
    Checked scope (.property path slots type span)
  | constant {name : String} {value : Scalar} {span : Span}
    (found : scope.constant? name = some value) : Checked scope (.constant name value span)
  | call {name : String} {function : Function} {arguments : List Expr} {span : Span}
    (checked : ∀ argument ∈ arguments, Checked scope argument)
    (resolved : scope.library.resolve name (arguments.map (·.type)) = some function) :
    Checked scope (.call function arguments span)
  | not {operand : Expr} {span : Span} (checked : Checked scope operand)
    (isBool : operand.type = .bool) : Checked scope (.not operand span)
  | and {left right : Expr} (leftChecked : Checked scope left)
    (rightChecked : Checked scope right) (leftIsBool : left.type = .bool)
    (rightIsBool : right.type = .bool) : Checked scope (.and left right)
  | or {left right : Expr} (leftChecked : Checked scope left)
    (rightChecked : Checked scope right) (leftIsBool : left.type = .bool)
    (rightIsBool : right.type = .bool) : Checked scope (.or left right)
  | relational {relation : Relation} {left right : Expr} {type : Ty}
    (leftChecked : Checked scope left) (rightChecked : Checked scope right)
    (orderable : relation.isOrdering = true → Orderable left right) :
    Checked scope (.relational relation left right type)

variable {scope : Scope}

theorem Checked.withDate {expr : Expr} (checked : expr.Checked scope) :
    expr.withDate.Checked scope := by
  unfold Expr.withDate
  split
  · exact .literal nofun
  · exact checked

theorem Checked.of_mem_parts {expr part : Expr} (checked : expr.Checked scope)
    (member : part ∈ expr.parts) : part.Checked scope := by
  induction checked with
  | literal plain =>
    rcases List.mem_singleton.mp member with rfl
    exact .literal plain
  | property found =>
    rcases List.mem_singleton.mp member with rfl
    exact .property found
  | constant found =>
    rcases List.mem_singleton.mp member with rfl
    exact .constant found
  | call checked resolved induction =>
    rw [parts, partsOf_eq_flatMap, List.mem_cons, List.mem_flatMap] at member
    rcases member with rfl | ⟨argument, isArgument, member⟩
    · exact .call checked resolved
    · exact induction argument isArgument member
  | not checked isBool induction =>
    rcases List.mem_cons.mp member with rfl | member
    · exact .not checked isBool
    · exact induction member
  | and leftChecked rightChecked leftIsBool rightIsBool leftInduction rightInduction =>
    rw [parts, List.mem_cons, List.mem_append] at member
    rcases member with rfl | member | member
    · exact .and leftChecked rightChecked leftIsBool rightIsBool
    · exact leftInduction member
    · exact rightInduction member
  | or leftChecked rightChecked leftIsBool rightIsBool leftInduction rightInduction =>
    rw [parts, List.mem_cons, List.mem_append] at member
    rcases member with rfl | member | member
    · exact .or leftChecked rightChecked leftIsBool rightIsBool
    · exact leftInduction member
    · exact rightInduction member
  | relational leftChecked rightChecked orderable leftInduction rightInduction =>
    rw [parts, List.mem_cons, List.mem_append] at member
    rcases member with rfl | member | member
    · exact .relational leftChecked rightChecked orderable
    · exact leftInduction member
    · exact rightInduction member

end Expr

/-! ## Reading -/

namespace Grammar

variable {scope : Scope}

theorem NameMeans.checked {path : String} {span : Span} {expr : Expr}
    (means : NameMeans scope path span expr) : expr.Checked scope := by
  cases means with
  | property found => exact .property found
  | constant _ found => exact .constant (by simp [Scope.constant?, found])
  | member _ noConstant found => exact .constant (by simp [Scope.constant?, noConstant, found])

theorem literal?_ne_enum {kind : TokenKind} {value : Scalar} (denotes : literal? kind = some value)
    (member : EnumValue) : value ≠ .enum member := by
  rintro rfl
  cases kind <;> cases denotes

def Category.MeaningChecked (scope : Scope) : (category : Category) → category.Meaning → Prop
  | .value, expr | .comparison, expr | .negation, expr | .conjunction, expr
  | .disjunction, expr => Expr.Checked scope expr
  | .arguments, exprs => ∀ expr ∈ exprs, Expr.Checked scope expr

theorem Phrase.Means.checked {category : Category} {phrase : Phrase category}
    {meaning : category.Meaning} (means : phrase.Means scope meaning) :
    category.MeaningChecked scope meaning := by
  induction means with
  | @literal _ _ denotes _ => exact .literal (literal?_ne_enum denotes)
  | name means => exact means.checked
  | emptyCall resolved => exact .call nofun resolved
  | call _ resolved induction => exact .call induction resolved
  | group _ induction => exact induction
  | single _ induction => exact induction
  | relation _ _ consistent noMoments firstInduction secondInduction =>
    exact .relational firstInduction secondInduction fun ordering =>
      Expr.orderable_of_operandType consistent ordering noMoments
  | relationOfMoments _ _ consistent moments leftIsDated rightIsDated firstInduction
      secondInduction =>
    rcases leftIsDated.eq_withDate with rfl
    rcases rightIsDated.eq_withDate with rfl
    exact .relational (Expr.Checked.withDate firstInduction)
      (Expr.Checked.withDate secondInduction) fun _ => Expr.orderable_withDate consistent moments
  | plain _ induction => exact induction
  | not _ isBool induction => exact .not induction isBool
  | lastConjunct _ induction => exact induction
  | and _ _ leftIsBool rightIsBool firstInduction secondInduction =>
    exact .and firstInduction secondInduction leftIsBool rightIsBool
  | lastDisjunct _ induction => exact induction
  | or _ _ leftIsBool rightIsBool firstInduction secondInduction =>
    exact .or firstInduction secondInduction leftIsBool rightIsBool
  | lastArgument _ induction => simpa [Category.MeaningChecked] using induction
  | argument _ _ firstInduction restInduction =>
    exact List.forall_mem_cons.mpr ⟨firstInduction, restInduction⟩

end Grammar

theorem Expr.checked_of_ofTokens {scope : Scope} {tokens : List Token} {expr : Expr}
    (read : Expr.ofTokens scope tokens = .ok expr) :
    expr.Checked scope ∧ expr.type = .bool := by
  rcases Grammar.ofTokens_eq_ok_iff.mp read with ⟨phrase, _, _, means, isBool⟩
  exact ⟨means.checked, isBool⟩

end Proviso
