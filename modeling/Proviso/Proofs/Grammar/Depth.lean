import Proviso.Proofs.Condition.Direct
import Proviso.Proofs.Outcome

/-!
The limit on nesting. The reader counts the levels that are left, and fails where there are none. As
long as this does not happen the number of levels makes no difference: under any higher limit the
same tokens are read as the same condition, or refused for the same fault at the same place.
-/

namespace Proviso

open Outcome

def Fault.IsTooDeep (limit : Nat) (fault : Fault) : Prop :=
  ∃ span, fault = .grammar (.tooDeep limit) span

namespace Grammar

/-! ## Rules -/

section Level

-- Two scopes that differ in nothing but their limits, and the rules of the next level for each.
variable {limit : Nat} {scope other : Scope} {stop : Span} {deeper further : Nested → Rule}
  (sameNames : other.resolveName = scope.resolveName)
  (sameCalls : other.resolveCall = scope.resolveCall)
  (below : ∀ nested tokens,
    SameUnless (Fault.IsTooDeep limit) (deeper nested tokens) (further nested tokens))

include sameNames below

theorem value_same (tokens : List Token) :
    SameUnless (Fault.IsTooDeep limit) (value scope stop deeper tokens)
      (value other stop further tokens) := by
  match tokens with
  | [] => exact .refl _
  | ⟨kind, span⟩ :: rest =>
    cases kind with
    | identifier path =>
      rw [value, value, sameNames]
      exact .refl _
    | functionOpen name => exact below _ _
    | leftParenthesis => exact (below .disjunction rest).bind fun _ => .refl _
    | _ => exact .refl _

theorem comparison_same (tokens : List Token) :
    SameUnless (Fault.IsTooDeep limit) (comparison scope stop deeper tokens)
      (comparison other stop further tokens) := by
  refine (value_same sameNames below tokens).bind fun ⟨left, rest⟩ => ?_
  dsimp only
  split
  case h_1 => exact (value_same sameNames below _).bind fun _ => .refl _
  case h_2 => exact .refl _

theorem negation_same (tokens : List Token) :
    SameUnless (Fault.IsTooDeep limit) (negation scope stop deeper tokens)
      (negation other stop further tokens) := by
  unfold negation
  split
  case h_1 => exact (comparison_same sameNames below _).bind fun _ => .refl _
  case h_2 => exact comparison_same sameNames below _

theorem conjunction_same (tokens : List Token) :
    SameUnless (Fault.IsTooDeep limit) (conjunction scope stop deeper tokens)
      (conjunction other stop further tokens) := by
  refine (negation_same sameNames below tokens).bind fun ⟨left, rest⟩ => ?_
  dsimp only
  split
  case h_1 => exact (below .conjunction _).bind fun _ => .refl _
  case h_2 => exact .refl _

theorem disjunction_same (tokens : List Token) :
    SameUnless (Fault.IsTooDeep limit) (disjunction scope stop deeper tokens)
      (disjunction other stop further tokens) := by
  refine (conjunction_same sameNames below tokens).bind fun ⟨left, rest⟩ => ?_
  dsimp only
  split
  case h_1 => exact (below .disjunction _).bind fun _ => .refl _
  case h_2 => exact .refl _

theorem arguments_same (fuel : Nat) (tokens : List Token) :
    SameUnless (Fault.IsTooDeep limit) (arguments scope stop deeper fuel tokens)
      (arguments other stop further fuel tokens) := by
  induction fuel generalizing tokens with
  | zero => exact .refl _
  | succ fuel induction =>
    refine (disjunction_same sameNames below tokens).bind fun ⟨argument, rest⟩ => ?_
    dsimp only
    split
    case h_1 => exact (induction _).bind fun _ => .refl _
    case h_2 => exact .refl _
    case h_3 => exact .refl _

include sameCalls

theorem call_same (name : String) (start : Span) (tokens : List Token) :
    SameUnless (Fault.IsTooDeep limit) (call scope stop deeper name start tokens)
      (call other stop further name start tokens) := by
  unfold call
  rw [sameCalls]
  split
  case h_1 => exact .refl _
  case h_2 => exact (arguments_same sameNames below _ _).bind fun _ => .refl _

end Level

/-! ## Levels -/

theorem nested_same {scope other : Scope} (sameNames : other.resolveName = scope.resolveName)
    (sameCalls : other.resolveCall = scope.resolveCall) (stop : Span) {levels more : Nat}
    (fewer : levels ≤ more) (kind : Nested) (tokens : List Token) :
    SameUnless (Fault.IsTooDeep scope.maxDepth) (nested scope stop levels kind tokens)
      (nested other stop more kind tokens) := by
  induction levels generalizing more kind tokens with
  | zero => exact .inl ⟨_, ⟨_, rfl⟩, rfl⟩
  | succ levels induction =>
    rcases Nat.exists_eq_add_one_of_ne_zero (Nat.ne_zero_of_lt fewer) with ⟨more, rfl⟩
    have below := induction (Nat.le_of_succ_le_succ fewer)
    cases kind with
    | disjunction => exact disjunction_same sameNames below tokens
    | conjunction => exact conjunction_same sameNames below tokens
    | call name start => exact call_same sameNames sameCalls below name start tokens

end Grammar

/-! ## Conditions -/

namespace Expr

theorem ofTokens_same {scope other : Scope} (sameNames : other.resolveName = scope.resolveName)
    (sameCalls : other.resolveCall = scope.resolveCall) (fewer : scope.maxDepth ≤ other.maxDepth)
    (tokens : List Token) :
    SameUnless (Fault.IsTooDeep scope.maxDepth) (ofTokens scope tokens)
      (ofTokens other tokens) := by
  have below := Grammar.nested_same sameNames sameCalls (TokenStream.ofTokens tokens).stop fewer
  exact (Grammar.disjunction_same sameNames below _).bind fun _ => .refl _

/-- Where tokens are not nested more deeply than a limit allows, a higher limit changes nothing. -/
theorem ofTokens_of_depth_le (scope : Scope) (tokens : List Token) {depth higher : Nat}
    (le : depth ≤ higher) :
    ((∀ span, ofTokens { scope with maxDepth := depth } tokens ≠
        .error (.grammar (.tooDeep depth) span)) →
      ofTokens { scope with maxDepth := higher } tokens =
        ofTokens { scope with maxDepth := depth } tokens) ∧
    ∀ expr, ofTokens { scope with maxDepth := depth } tokens = .ok expr →
      ofTokens { scope with maxDepth := higher } tokens = .ok expr := by
  let lower : Scope := { scope with maxDepth := depth }
  let upper : Scope := { scope with maxDepth := higher }
  have sameNames : upper.resolveName = lower.resolveName := rfl
  have sameCalls : upper.resolveCall = lower.resolveCall := rfl
  have same := ofTokens_same sameNames sameCalls le tokens
  constructor
  case left =>
    intro notTooDeep
    rcases same with ⟨_, ⟨span, rfl⟩, tooDeep⟩ | same
    · exact absurd tooDeep (notTooDeep span)
    · exact same
  case right =>
    intro expr read
    rcases same with ⟨_, ⟨span, rfl⟩, tooDeep⟩ | same
    · cases read.symm.trans tooDeep
    · exact same.trans read

/-- A call in a right operand needs two levels, and has the same tree under the highest limit. -/
theorem ofTokens_of_depth_le_people :
    (∃ span, ofTokens { Scope.people with maxDepth := 1 } Scope.peopleTokens =
      .error (.grammar (.tooDeep 1) span)) ∧
    2 ≤ 2 ^ 64 ∧ ∃ expr,
      ofTokens { Scope.people with maxDepth := 2 } Scope.peopleTokens = .ok expr ∧
        ofTokens { Scope.people with maxDepth := 2 ^ 64 } Scope.peopleTokens = .ok expr := by
  have accepted :
      ∃ expr, ofTokens { Scope.people with maxDepth := 2 } Scope.peopleTokens = .ok expr :=
    ⟨_, rfl⟩
  have le : 2 ≤ 2 ^ 64 := by decide
  rcases accepted with ⟨expr, read⟩
  exact ⟨⟨_, rfl⟩, le, expr, read, (ofTokens_of_depth_le .people Scope.peopleTokens le).2 expr read⟩

end Expr

end Proviso
