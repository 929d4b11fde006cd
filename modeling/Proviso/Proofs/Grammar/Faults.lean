import Proviso.Expr.Grammar
import Proviso.Proofs.Outcome

/-!
What can be wrong with tokens, and where. A fault of the reader is one of the grammar or of the
types, and its place is put together from those of the tokens: a property of places that merging
keeps holds of the fault if it holds of every token. Each rule of one level keeps to this if the
rules of the next level do.
-/

namespace Proviso

open Outcome

def Fault.IsOfReading : Fault → Prop
  | .grammar _ _ => True
  | .typing _ _ => True
  | _ => False

theorem Fault.IsOfReading.isCompileTime {fault : Fault} (ofReading : fault.IsOfReading) :
    fault.isCompileTime = true := by
  cases fault with
  | grammar | typing => rfl
  | _ => cases ofReading

def Fault.IsOfReadingAt (place : Span → Prop) (fault : Fault) : Prop :=
  fault.IsOfReading ∧ ∀ span, fault.span? = some span → place span

theorem Fault.isOfReadingAt_grammar {place : Span → Prop} {span : Span} (inside : place span)
    (cause : GrammarFault) : (grammar cause span).IsOfReadingAt place := by
  refine ⟨trivial, ?_⟩
  rintro _ ⟨⟩
  exact inside

theorem Fault.isOfReadingAt_typing {place : Span → Prop} {span : Span} (inside : place span)
    (cause : TypingFault) : (typing cause span).IsOfReadingAt place := by
  refine ⟨trivial, ?_⟩
  rintro _ ⟨⟩
  exact inside

def Span.Mergeable (place : Span → Prop) : Prop :=
  ∀ first second, place first → place second → place (first.merge second)

/-! ## Types and names -/

section

variable {place : Span → Prop}

namespace Expr

@[simp] theorem span_withDate (expr : Expr) : expr.withDate.span = expr.span := by
  unfold withDate
  split <;> rfl

theorem requireBoolean_meets (role : BooleanRole) {expr : Expr} (inside : place expr.span) :
    Meets (fun _ => True) (Fault.IsOfReadingAt place) (expr.requireBoolean role) := by
  unfold requireBoolean
  split
  · trivial
  · exact Fault.isOfReadingAt_typing inside _

theorem comparedType_meets (relation : Relation) {left right : Expr}
    (inside : place (left.span.merge right.span)) :
    Meets (fun _ => True) (Fault.IsOfReadingAt place) (comparedType relation left right) := by
  unfold comparedType
  dsimp only
  repeat' split
  all_goals first | trivial | exact Fault.isOfReadingAt_typing inside _

theorem ofComparison_meets (relation : Relation) {left right : Expr}
    (inside : place (left.span.merge right.span)) :
    Meets (place ·.span) (Fault.IsOfReadingAt place) (ofComparison relation left right) := by
  have operands :
      Meets (fun _ => True) (Fault.IsOfReadingAt place) (operandType relation left right) := by
    refine (comparedType_meets relation inside).bind fun compared _ => ?_
    split
    · split
      · exact Fault.isOfReadingAt_typing inside _
      · trivial
    · trivial
  refine operands.bind fun type _ => ?_
  split
  · have dated : place (left.withDate.span.merge right.withDate.span) := by simpa using inside
    exact dated
  · exact inside

end Expr

namespace Scope

theorem resolveName_meets (scope : Scope) (path : String) {span : Span} (inside : place span) :
    Meets (place ·.span) (Fault.IsOfReadingAt place) (scope.resolveName path span) := by
  unfold resolveName
  split
  · exact inside
  · split
    · exact inside
    · exact Fault.isOfReadingAt_grammar inside _

theorem resolveCall_meets (scope : Scope) (name : String) (arguments : List Expr) {span : Span}
    (inside : place span) :
    Meets (place ·.span) (Fault.IsOfReadingAt place) (scope.resolveCall name arguments span) := by
  unfold resolveCall
  dsimp only
  split
  · exact inside
  · split <;> exact Fault.isOfReadingAt_grammar inside _

end Scope

end

/-! ## Rules -/

namespace Grammar

section

variable (place : Span → Prop)

def TokensAt (tokens : List Token) : Prop :=
  ∀ token ∈ tokens, place token.span

def Nested.StartsAt : Nested → Prop
  | .call _ start => place start
  | _ => True

/-- An outcome at places with a property: those of the expression and of the tokens behind it, or
that of the fault. -/
def ReadsAt : Except Fault (Expr × List Token) → Prop :=
  Meets (fun read => place read.1.span ∧ TokensAt place read.2) (Fault.IsOfReadingAt place)

end

section Level

variable {place : Span → Prop} {scope : Scope} {stop : Span} {deeper : Nested → Rule}

theorem next_inside (atStop : place stop) {tokens : List Token} (inside : TokensAt place tokens) :
    place (next stop tokens).span := by
  cases tokens with
  | nil => exact atStop
  | cons token rest => exact inside token (List.mem_cons_self ..)

theorem TokensAt.tail {token : Token} {rest : List Token}
    (inside : TokensAt place (token :: rest)) : TokensAt place rest :=
  fun other member => inside other (List.mem_cons_of_mem _ member)

variable (merges : Span.Mergeable place) (atStop : place stop)
  (below : ∀ nested tokens, nested.StartsAt place → TokensAt place tokens →
    ReadsAt place (deeper nested tokens))

include atStop below

theorem value_reads {tokens : List Token} (inside : TokensAt place tokens) :
    ReadsAt place (value scope stop deeper tokens) := by
  match tokens with
  | [] => exact Fault.isOfReadingAt_grammar atStop _
  | ⟨kind, span⟩ :: rest =>
    have here : place span := inside _ (List.mem_cons_self ..)
    cases kind with
    | null | integer | float | boolean | string => exact ⟨here, inside.tail⟩
    | identifier path =>
      exact (scope.resolveName_meets path here).map fun _ named => ⟨named, inside.tail⟩
    | functionOpen name => exact below _ _ here inside.tail
    | leftParenthesis =>
      refine (below .disjunction _ trivial inside.tail).bind fun ⟨inner, rest⟩ ⟨within, behind⟩ => ?_
      dsimp only
      split
      · exact ⟨within, behind.tail⟩
      · exact Fault.isOfReadingAt_grammar (next_inside atStop behind) _
    | _ => exact Fault.isOfReadingAt_grammar here _

include merges

theorem comparison_reads {tokens : List Token} (inside : TokensAt place tokens) :
    ReadsAt place (comparison scope stop deeper tokens) := by
  refine (value_reads atStop below inside).bind fun ⟨left, rest⟩ ⟨atLeft, behind⟩ => ?_
  dsimp only
  split
  case h_1 span rest =>
    refine (value_reads atStop below behind.tail).bind fun ⟨right, rest⟩ ⟨atRight, behind⟩ => ?_
    dsimp only
    split
    case h_1 => exact Fault.isOfReadingAt_grammar (behind _ (List.mem_cons_self ..)) _
    case h_2 =>
      refine (Expr.ofComparison_meets _ (merges _ _ atLeft atRight)).bind ?_
      exact fun _ related => ⟨related, behind⟩
  case h_2 => exact ⟨atLeft, behind⟩

theorem negation_reads {tokens : List Token} (inside : TokensAt place tokens) :
    ReadsAt place (negation scope stop deeper tokens) := by
  unfold negation
  split
  case h_1 span rest =>
    refine (comparison_reads merges atStop below inside.tail).bind
      fun ⟨operand, rest⟩ ⟨atOperand, behind⟩ => ?_
    refine (Expr.requireBoolean_meets _ atOperand).bind fun _ _ => ?_
    exact ⟨merges _ _ (inside _ (List.mem_cons_self ..)) atOperand, behind⟩
  case h_2 => exact comparison_reads merges atStop below inside

theorem conjunction_reads {tokens : List Token} (inside : TokensAt place tokens) :
    ReadsAt place (conjunction scope stop deeper tokens) := by
  refine (negation_reads merges atStop below inside).bind fun ⟨left, rest⟩ ⟨atLeft, behind⟩ => ?_
  dsimp only
  split
  case h_1 span rest =>
    refine (below .conjunction _ trivial behind.tail).bind
      fun ⟨right, rest⟩ ⟨atRight, behind⟩ => ?_
    refine (Expr.requireBoolean_meets _ atLeft).bind fun _ _ => ?_
    refine (Expr.requireBoolean_meets _ atRight).bind fun _ _ => ?_
    exact ⟨merges _ _ atLeft atRight, behind⟩
  case h_2 => exact ⟨atLeft, behind⟩

theorem disjunction_reads {tokens : List Token} (inside : TokensAt place tokens) :
    ReadsAt place (disjunction scope stop deeper tokens) := by
  refine (conjunction_reads merges atStop below inside).bind fun ⟨left, rest⟩ ⟨atLeft, behind⟩ => ?_
  dsimp only
  split
  case h_1 span rest =>
    refine (below .disjunction _ trivial behind.tail).bind
      fun ⟨right, rest⟩ ⟨atRight, behind⟩ => ?_
    refine (Expr.requireBoolean_meets _ atLeft).bind fun _ _ => ?_
    refine (Expr.requireBoolean_meets _ atRight).bind fun _ _ => ?_
    exact ⟨merges _ _ atLeft atRight, behind⟩
  case h_2 => exact ⟨atLeft, behind⟩

theorem arguments_meets (fuel : Nat) {tokens : List Token} (inside : TokensAt place tokens) :
    Meets (fun read => place read.2.1 ∧ TokensAt place read.2.2) (Fault.IsOfReadingAt place)
      (arguments scope stop deeper fuel tokens) := by
  induction fuel generalizing tokens with
  | zero => exact Fault.isOfReadingAt_grammar atStop _
  | succ fuel induction =>
    refine (disjunction_reads merges atStop below inside).bind
      fun ⟨argument, rest⟩ ⟨_, behind⟩ => ?_
    dsimp only
    split
    case h_1 span rest => exact (induction behind.tail).bind fun _ closed => closed
    case h_2 => exact ⟨behind _ (List.mem_cons_self ..), behind.tail⟩
    case h_3 => exact Fault.isOfReadingAt_grammar (next_inside atStop behind) _

theorem call_reads (name : String) {start : Span} (atStart : place start) {tokens : List Token}
    (inside : TokensAt place tokens) : ReadsAt place (call scope stop deeper name start tokens) := by
  unfold call
  split
  case h_1 =>
    have called := merges _ _ atStart (inside _ (List.mem_cons_self ..))
    exact (scope.resolveCall_meets name [] called).map fun _ within => ⟨within, inside.tail⟩
  case h_2 =>
    refine (arguments_meets merges atStop below _ inside).bind
      fun ⟨arguments, close, rest⟩ ⟨atClose, behind⟩ => ?_
    refine (scope.resolveCall_meets name arguments (merges _ _ atStart atClose)).bind ?_
    exact fun _ within => ⟨within, behind⟩

end Level

theorem nested_reads {place : Span → Prop} (merges : Span.Mergeable place) (scope : Scope)
    {stop : Span} (atStop : place stop) (levels : Nat) (kind : Nested) (tokens : List Token)
    (starts : kind.StartsAt place) (inside : TokensAt place tokens) :
    ReadsAt place (nested scope stop levels kind tokens) := by
  induction levels generalizing kind tokens with
  | zero => exact Fault.isOfReadingAt_grammar (next_inside atStop inside) _
  | succ levels induction =>
    cases kind with
    | disjunction => exact disjunction_reads merges atStop induction inside
    | conjunction => exact conjunction_reads merges atStop induction inside
    | call name start => exact call_reads merges atStop induction name starts inside

end Grammar

/-! ## Conditions -/

/-- The place of what is wrong with tokens is put together from their places and that of their
end. -/
theorem Expr.ofTokens_meets {place : Span → Prop} (merges : Span.Mergeable place) (scope : Scope)
    {tokens : List Token} (inside : Grammar.TokensAt place (TokenStream.ofTokens tokens).tokens)
    (atStop : place (TokenStream.ofTokens tokens).stop) :
    Meets (place ·.span) (Fault.IsOfReadingAt place) (ofTokens scope tokens) := by
  have below := Grammar.nested_reads merges scope atStop scope.maxDepth
  refine (Grammar.disjunction_reads merges atStop below inside).bind
    fun ⟨expr, rest⟩ ⟨within, behind⟩ => ?_
  dsimp only
  split
  · exact (requireBoolean_meets _ within).bind fun _ _ => within
  · exact Fault.isOfReadingAt_grammar (behind _ (List.mem_cons_self ..)) _

theorem Expr.ofTokens_failsOnly (scope : Scope) (tokens : List Token) :
    FailsOnly Fault.IsOfReading (ofTokens scope tokens) := by
  have anywhere : Span.Mergeable fun _ => True := fun _ _ _ _ => trivial
  have reads : Meets _ _ (ofTokens scope tokens) :=
    ofTokens_meets anywhere scope (fun _ _ => trivial) trivial
  exact reads.failsOnly.imp fun _ found => found.1

end Proviso
