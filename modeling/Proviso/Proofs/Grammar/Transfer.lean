import Proviso.Proofs.Condition.Checked
import Proviso.Proofs.Function.Arguments

/-!
What a phrase means in one scope and in another. It means the same if every name does, and every
call that occurs in what it means.
-/

namespace Proviso.Grammar

def Category.parts : (category : Category) → category.Meaning → List Expr
  | .value, expr | .comparison, expr | .negation, expr | .conjunction, expr
  | .disjunction, expr => expr.parts
  | .arguments, exprs => Expr.partsOf exprs

/-- Whether the calls among some expressions mean the same functions in a scope. -/
def KeepsCalls (scope : Scope) (parts : List Expr) : Prop :=
  ∀ function arguments span, .call function arguments span ∈ parts →
    scope.library.resolve function.name (arguments.map (·.type)) = some function

variable {scope other : Scope}

theorem NameMeans.transfer {path : String} {span : Span} {expr : Expr}
    (means : NameMeans scope path span expr) (sameContext : other.context = scope.context)
    (members : ∀ value, scope.enumMember? path = some value →
      other.enumMember? path = some value) : NameMeans other path span expr := by
  cases means with
  | property found => exact .property (by rwa [sameContext])
  | constant noProperty found =>
    exact .constant (by rwa [sameContext]) (by rwa [sameContext])
  | member noProperty noConstant found =>
    exact .member (by rwa [sameContext]) (by rwa [sameContext]) (members _ found)

theorem KeepsCalls.mono {parts fewer : List Expr} (keeps : KeepsCalls other parts)
    (among : fewer ⊆ parts) : KeepsCalls other fewer :=
  fun function arguments span member => keeps function arguments span (among member)

theorem keepsCalls_append {first second : List Expr} :
    KeepsCalls other (first ++ second) ↔ KeepsCalls other first ∧ KeepsCalls other second := by
  constructor
  · exact fun keeps => ⟨keeps.mono (List.subset_append_left ..),
      keeps.mono (List.subset_append_right ..)⟩
  · rintro ⟨firstKept, secondKept⟩ function arguments span member
    exact (List.mem_append.mp member).elim (firstKept _ _ _) (secondKept _ _ _)

theorem KeepsCalls.sides {whole : Expr} {left right : List Expr}
    (keeps : KeepsCalls other (whole :: (left ++ right))) :
    KeepsCalls other left ∧ KeepsCalls other right :=
  keepsCalls_append.mp (keeps.mono (List.subset_cons_self ..))

theorem KeepsCalls.of_dated {expr dated : Expr} (keeps : KeepsCalls other dated.parts)
    (isDated : Dated expr dated) : KeepsCalls other expr.parts := by
  cases isDated with
  | date =>
    intro function arguments span member
    cases List.mem_singleton.mp member
  | wildcard | noDate | noText => exact keeps

/-- A phrase means the same in a scope in which its names and its calls do. -/
theorem Phrase.Means.transfer {category : Category} {phrase : Phrase category}
    {meaning : category.Meaning} (means : phrase.Means scope meaning)
    (names : ∀ path span expr, NameMeans scope path span expr → NameMeans other path span expr)
    (calls : KeepsCalls other (category.parts meaning)) : phrase.Means other meaning := by
  induction means with
  | literal => exact .literal
  | name means => exact .name (names _ _ _ means)
  | emptyCall resolved =>
    have kept := calls _ _ _ (List.mem_cons_self ..)
    rw [Library.name_of_resolve resolved] at kept
    exact .emptyCall kept
  | call _ resolved induction =>
    have kept := calls _ _ _ (List.mem_cons_self ..)
    rw [Library.name_of_resolve resolved] at kept
    exact .call (induction (calls.mono (List.subset_cons_self ..))) kept
  | group _ induction => exact .group (induction calls)
  | single _ induction => exact .single (induction calls)
  | relation _ _ consistent noMoments first second =>
    rcases calls.sides with ⟨leftCalls, rightCalls⟩
    exact .relation (first leftCalls) (second rightCalls) consistent noMoments
  | relationOfMoments _ _ consistent moments leftIsDated rightIsDated first second =>
    rcases calls.sides with ⟨leftCalls, rightCalls⟩
    exact .relationOfMoments (first (leftCalls.of_dated leftIsDated))
      (second (rightCalls.of_dated rightIsDated)) consistent moments leftIsDated rightIsDated
  | plain _ induction => exact .plain (induction calls)
  | not _ isBool induction =>
    exact .not (induction (calls.mono (List.subset_cons_self ..))) isBool
  | lastConjunct _ induction => exact .lastConjunct (induction calls)
  | and _ _ leftIsBool rightIsBool first second =>
    rcases calls.sides with ⟨leftCalls, rightCalls⟩
    exact .and (first leftCalls) (second rightCalls) leftIsBool rightIsBool
  | lastDisjunct _ induction => exact .lastDisjunct (induction calls)
  | or _ _ leftIsBool rightIsBool first second =>
    rcases calls.sides with ⟨leftCalls, rightCalls⟩
    exact .or (first leftCalls) (second rightCalls) leftIsBool rightIsBool
  | lastArgument _ induction => exact .lastArgument (induction (keepsCalls_append.mp calls).1)
  | argument _ _ first rest =>
    rcases keepsCalls_append.mp calls with ⟨firstCalls, restCalls⟩
    exact .argument (first firstCalls) (rest restCalls)

theorem keepsCalls_of_checked {expr : Expr} (checked : expr.Checked scope) :
    KeepsCalls scope expr.parts := by
  intro function arguments span member
  cases checked.of_mem_parts member with
  | call _ resolved => rwa [← Library.name_of_resolve resolved] at resolved

theorem Phrase.Means.keepsCalls {category : Category} {phrase : Phrase category}
    {meaning : category.Meaning} (means : phrase.Means scope meaning) :
    KeepsCalls scope (category.parts meaning) := by
  have checked := means.checked
  cases category with
  | arguments =>
    intro function arguments span member
    rw [Category.parts, Expr.partsOf_eq_flatMap] at member
    rcases List.mem_flatMap.mp member with ⟨expr, isArgument, member⟩
    exact keepsCalls_of_checked (checked expr isArgument) _ _ _ member
  | _ => exact keepsCalls_of_checked checked

end Proviso.Grammar
