import Proviso.Proofs.Grammar.Soundness
import Proviso.Proofs.Grammar.Unambiguity

/-!
What means an expression is read: a phrase that is not nested too deeply, followed by tokens
that do not go on with it, is taken as a whole by the rule of its category. With soundness this
makes reading a condition the same as finding its phrase.
-/

namespace Proviso.Grammar

open Outcome

variable {scope : Scope} {stop : Span}

theorem resolveName_of_nameMeans {path : String} {span : Span} {expr : Expr}
    (means : NameMeans scope path span expr) : scope.resolveName path span = .ok expr := by
  cases means with
  | property found => simp [Scope.resolveName, found]
  | constant noProperty found => simp [Scope.resolveName, Scope.constant?, noProperty, found]
  | member noProperty noConstant found =>
    simp [Scope.resolveName, Scope.constant?, noProperty, noConstant, found]

theorem resolveCall_of_resolve {name : String} {arguments : List Expr} {function : Function}
    (found : scope.library.resolve name (arguments.map (·.type)) = some function) (span : Span) :
    scope.resolveCall name arguments span = .ok (.call function arguments span) := by
  simp [Scope.resolveCall, found]

/-! ## Rules -/

section Level

variable {deeper : Nested → Rule} {tokens rest after : List Token} {expr left right : Expr}
  {place : Span}

theorem value_group
    (read : deeper .disjunction tokens = .ok (expr, ⟨.rightParenthesis, place⟩ :: rest))
    (start : Span) :
    value scope stop deeper (⟨.leftParenthesis, start⟩ :: tokens) = .ok (expr, rest) :=
  bind_eq_ok.mpr ⟨_, read, rfl⟩

theorem comparison_single (read : value scope stop deeper tokens = .ok (expr, rest))
    (ends : Category.comparison.EndsBefore rest) :
    comparison scope stop deeper tokens = .ok (expr, rest) := by
  refine bind_eq_ok.mpr ⟨_, read, ?_⟩
  dsimp only
  split
  case h_1 => simp at ends
  case h_2 => rfl

theorem comparison_relation {symbol : Relation}
    (leftRead : value scope stop deeper tokens = .ok (left, ⟨.relation symbol, place⟩ :: after))
    (rightRead : value scope stop deeper after = .ok (right, rest))
    (ends : Category.comparison.EndsBefore rest)
    (checked : Expr.ofComparison symbol left right = .ok expr) :
    comparison scope stop deeper tokens = .ok (expr, rest) := by
  refine bind_eq_ok.mpr ⟨_, leftRead, bind_eq_ok.mpr ⟨_, rightRead, ?_⟩⟩
  dsimp only
  split
  case h_1 => simp at ends
  case h_2 => exact bind_eq_ok.mpr ⟨_, checked, rfl⟩

theorem negation_not (read : comparison scope stop deeper tokens = .ok (expr, rest))
    (isBool : expr.type = .bool) (place : Span) :
    negation scope stop deeper (⟨.not, place⟩ :: tokens) =
      .ok (.not expr (place.merge expr.span), rest) :=
  bind_eq_ok.mpr ⟨_, read, bind_eq_ok.mpr ⟨_, requireBoolean_eq_ok.mpr isBool, rfl⟩⟩

theorem negation_plain (read : comparison scope stop deeper tokens = .ok (expr, rest))
    (unmarked : ∀ place others, tokens ≠ ⟨.not, place⟩ :: others) :
    negation scope stop deeper tokens = .ok (expr, rest) := by
  unfold negation
  split
  case h_1 => exact absurd rfl (unmarked _ _)
  case h_2 => exact read

theorem conjunction_last (read : negation scope stop deeper tokens = .ok (expr, rest))
    (ends : Category.conjunction.EndsBefore rest) :
    conjunction scope stop deeper tokens = .ok (expr, rest) := by
  refine bind_eq_ok.mpr ⟨_, read, ?_⟩
  dsimp only
  split
  case h_1 => simp at ends
  case h_2 => rfl

theorem conjunction_and
    (leftRead : negation scope stop deeper tokens = .ok (left, ⟨.and, place⟩ :: after))
    (rightRead : deeper .conjunction after = .ok (right, rest))
    (leftIsBool : left.type = .bool) (rightIsBool : right.type = .bool) :
    conjunction scope stop deeper tokens = .ok (.and left right, rest) :=
  bind_eq_ok.mpr ⟨_, leftRead, bind_eq_ok.mpr ⟨_, rightRead,
    bind_eq_ok.mpr ⟨_, requireBoolean_eq_ok.mpr leftIsBool,
      bind_eq_ok.mpr ⟨_, requireBoolean_eq_ok.mpr rightIsBool, rfl⟩⟩⟩⟩

theorem disjunction_last (read : conjunction scope stop deeper tokens = .ok (expr, rest))
    (ends : Category.disjunction.EndsBefore rest) :
    disjunction scope stop deeper tokens = .ok (expr, rest) := by
  refine bind_eq_ok.mpr ⟨_, read, ?_⟩
  dsimp only
  split
  case h_1 => simp at ends
  case h_2 => rfl

theorem disjunction_or
    (leftRead : conjunction scope stop deeper tokens = .ok (left, ⟨.or, place⟩ :: after))
    (rightRead : deeper .disjunction after = .ok (right, rest))
    (leftIsBool : left.type = .bool) (rightIsBool : right.type = .bool) :
    disjunction scope stop deeper tokens = .ok (.or left right, rest) :=
  bind_eq_ok.mpr ⟨_, leftRead, bind_eq_ok.mpr ⟨_, rightRead,
    bind_eq_ok.mpr ⟨_, requireBoolean_eq_ok.mpr leftIsBool,
      bind_eq_ok.mpr ⟨_, requireBoolean_eq_ok.mpr rightIsBool, rfl⟩⟩⟩⟩

theorem arguments_last
    (read : disjunction scope stop deeper tokens = .ok (expr, ⟨.rightParenthesis, place⟩ :: rest))
    (fuel : Nat) :
    arguments scope stop deeper (fuel + 1) tokens = .ok ([expr], place, rest) :=
  bind_eq_ok.mpr ⟨_, read, rfl⟩

theorem arguments_comma {exprs : List Expr} {close : Span} {fuel : Nat}
    (firstRead : disjunction scope stop deeper tokens = .ok (expr, ⟨.comma, place⟩ :: after))
    (restRead : arguments scope stop deeper fuel after = .ok (exprs, close, rest)) :
    arguments scope stop deeper (fuel + 1) tokens = .ok (expr :: exprs, close, rest) :=
  bind_eq_ok.mpr ⟨_, firstRead, bind_eq_ok.mpr ⟨_, restRead, rfl⟩⟩

theorem call_arguments {name : String} {start close : Span} {exprs : List Expr}
    {function : Function} (opens : ∀ close others, tokens ≠ ⟨.rightParenthesis, close⟩ :: others)
    (read : arguments scope stop deeper (tokens.length + 1) tokens = .ok (exprs, close, rest))
    (found : scope.library.resolve name (exprs.map (·.type)) = some function) :
    call scope stop deeper name start tokens =
      .ok (.call function exprs (start.merge close), rest) := by
  unfold call
  split
  case h_1 => exact absurd rfl (opens _ _)
  case h_2 =>
    exact bind_eq_ok.mpr ⟨_, read, bind_eq_ok.mpr ⟨_, resolveCall_of_resolve found _, rfl⟩⟩

end Level

/-! ## Phrases -/

/-- What it is for the rule of a category to take a phrase from the front of tokens, with a
number of levels left. The rule for arguments takes the closing parenthesis as well. -/
def Takes (scope : Scope) (stop : Span) (levels : Nat) :
    (category : Category) → List Token → category.Meaning → List Token → Prop
  | .value, tokens, expr, rest =>
    value scope stop (nested scope stop levels) tokens = .ok (expr, rest)
  | .comparison, tokens, expr, rest =>
    comparison scope stop (nested scope stop levels) tokens = .ok (expr, rest)
  | .negation, tokens, expr, rest =>
    negation scope stop (nested scope stop levels) tokens = .ok (expr, rest)
  | .conjunction, tokens, expr, rest =>
    conjunction scope stop (nested scope stop levels) tokens = .ok (expr, rest)
  | .disjunction, tokens, expr, rest =>
    disjunction scope stop (nested scope stop levels) tokens = .ok (expr, rest)
  | .arguments, tokens, exprs, rest =>
    ∀ close after fuel, rest = ⟨.rightParenthesis, close⟩ :: after → tokens.length < fuel →
      arguments scope stop (nested scope stop levels) fuel tokens = .ok (exprs, close, after)

theorem takes_of_means {category : Category} {phrase : Phrase category}
    {meaning : category.Meaning} (means : phrase.Means scope meaning) {levels : Nat}
    (depth : phrase.depth ≤ levels) {rest : List Token} (ends : category.EndsBefore rest) :
    Takes scope stop levels category (phrase.tokens ++ rest) meaning rest := by
  -- Calls, groups and right operands are read with one level less. A category that binds tighter
  -- ends before more tokens, so the condition on what follows passes down to the parts.
  induction means generalizing levels rest with
  | @literal kind value denotes span => exact value_literal denotes span rest
  | name means => exact map_eq_ok.mpr ⟨_, resolveName_of_nameMeans means, rfl⟩
  | emptyCall resolved =>
    cases levels with
    | zero => exact absurd depth (Nat.not_succ_le_zero _)
    | succ levels => exact map_eq_ok.mpr ⟨_, resolveCall_of_resolve resolved _, rfl⟩
  | @call callee start close arguments exprs function means resolved induction =>
    cases levels with
    | zero => exact absurd depth (Nat.not_succ_le_zero _)
    | succ levels =>
      have taken : Takes scope stop levels .arguments
          (arguments.tokens ++ ⟨.rightParenthesis, close⟩ :: rest) exprs
          (⟨.rightParenthesis, close⟩ :: rest) :=
        induction (Nat.le_of_succ_le_succ depth) (by simp)
      rw [Phrase.tokens_call_append]
      exact call_arguments (fun _ _ => arguments.tokens_append_ne_close)
        (taken close rest _ rfl (Nat.lt_succ_self _)) resolved
  | @group start close inner expr means induction =>
    cases levels with
    | zero => exact absurd depth (Nat.not_succ_le_zero _)
    | succ levels =>
      have taken : nested scope stop (levels + 1) .disjunction
          (inner.tokens ++ ⟨.rightParenthesis, close⟩ :: rest) =
            .ok (expr, ⟨.rightParenthesis, close⟩ :: rest) :=
        induction (Nat.le_of_succ_le_succ depth) (by simp)
      rw [Phrase.tokens_group_append]
      exact value_group taken start
  | single means induction => exact comparison_single (induction depth (by simp)) ends
  | relation firstMeans secondMeans consistent noMoments firstInduction secondInduction =>
    rcases Nat.max_le.mp depth with ⟨firstDepth, secondDepth⟩
    have checked := ofComparison_eq_ok.mpr ⟨_, consistent, rfl⟩
    rw [noMoments] at checked
    rw [Phrase.tokens_relation_append]
    exact comparison_relation (firstInduction firstDepth (by simp))
      (secondInduction secondDepth (by simp)) ends checked
  | relationOfMoments firstMeans secondMeans consistent moments leftIsDated rightIsDated
      firstInduction secondInduction =>
    rcases Nat.max_le.mp depth with ⟨firstDepth, secondDepth⟩
    rcases leftIsDated.eq_withDate with rfl
    rcases rightIsDated.eq_withDate with rfl
    have checked := ofComparison_eq_ok.mpr ⟨_, consistent, rfl⟩
    rw [moments] at checked
    rw [Phrase.tokens_relation_append]
    exact comparison_relation (firstInduction firstDepth (by simp))
      (secondInduction secondDepth (by simp)) ends checked
  | @plain operand expr means induction =>
    exact negation_plain (induction depth (ends.tighten (by decide)))
      (fun _ _ => operand.tokens_append_ne_not)
  | not means isBool induction =>
    exact negation_not (induction depth (ends.tighten (by decide))) isBool _
  | lastConjunct means induction =>
    exact conjunction_last (induction depth (ends.tighten (by decide))) ends
  | and firstMeans secondMeans leftIsBool rightIsBool firstInduction secondInduction =>
    rcases Nat.max_le.mp depth with ⟨firstDepth, secondDepth⟩
    cases levels with
    | zero => exact absurd secondDepth (Nat.not_succ_le_zero _)
    | succ levels =>
      rw [Phrase.tokens_and_append]
      exact conjunction_and (firstInduction firstDepth (by simp))
        (secondInduction (Nat.le_of_succ_le_succ secondDepth) ends) leftIsBool rightIsBool
  | lastDisjunct means induction =>
    exact disjunction_last (induction depth (ends.tighten (by decide))) ends
  | or firstMeans secondMeans leftIsBool rightIsBool firstInduction secondInduction =>
    rcases Nat.max_le.mp depth with ⟨firstDepth, secondDepth⟩
    cases levels with
    | zero => exact absurd secondDepth (Nat.not_succ_le_zero _)
    | succ levels =>
      rw [Phrase.tokens_or_append]
      exact disjunction_or (firstInduction firstDepth (by simp))
        (secondInduction (Nat.le_of_succ_le_succ secondDepth) ends) leftIsBool rightIsBool
  | lastArgument means induction =>
    rintro close after (_ | fuel) rfl enough
    · exact absurd enough (Nat.not_lt_zero _)
    · exact arguments_last (induction depth (ends.tighten (by decide))) fuel
  | @argument first place rest expr exprs firstMeans restMeans firstInduction restInduction =>
    rintro close after (_ | fuel) rfl enough
    · exact absurd enough (Nat.not_lt_zero _)
    · rcases Nat.max_le.mp depth with ⟨firstDepth, restDepth⟩
      rw [Phrase.tokens_argument_append] at enough ⊢
      simp only [List.length_append, List.length_cons] at enough
      exact arguments_comma (firstInduction firstDepth (by simp))
        (restInduction restDepth ends close after fuel rfl (by simp; omega))

end Proviso.Grammar
