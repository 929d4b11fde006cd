import Proviso.Function.Builtin.Texts
import Proviso.Predicate.Basic
import Proviso.Proofs.Record.Building

/-!
Chains of `&&` and of `||`. However the operands of a chain are grouped, they are tested from left
to right up to the first one that settles the chain. So the grouping shows in the tree alone, and
neither in the outcome of an evaluation nor in the calls that it makes.
-/

namespace Proviso

open Evaluation

inductive Connective where
  | and
  | or

namespace Connective

def join : Connective → Expr → Expr → Expr
  | .and, left, right => .and left right
  | .or, left, right => .or left right

/-- What an operand comes to if the operands after it make no difference. -/
def settling : Connective → Bool
  | .and => false
  | .or => true

end Connective

/-- Whether an expression joins operands in this order, grouped in whatever way. -/
inductive Expr.IsChain (connective : Connective) : List Expr → Expr → Prop where
  | operand (expr : Expr) : IsChain connective [expr] expr
  | join {first second : List Expr} {left right : Expr}
      (leftChain : IsChain connective first left) (rightChain : IsChain connective second right) :
      IsChain connective (first ++ second) (connective.join left right)

theorem Expr.IsChain.length_pos {connective : Connective} {operands : List Expr} {expr : Expr}
    (chain : expr.IsChain connective operands) : 0 < operands.length := by
  induction chain with
  | operand => exact Nat.one_pos
  | join _ _ leftPositive _ =>
    rw [List.length_append]
    exact Nat.add_pos_left leftPositive _

theorem Evaluation.expectBool_of_map (evaluation : Evaluation Bool) :
    (evaluation.map .bool).andThen expectBool = evaluation := by
  rw [map_eq_andThen, andThen_assoc]
  simp only [done_andThen]
  exact andThen_done evaluation

namespace Node

variable (setting : Setting)

/-! ## Rows of operands -/

theorem ofExprs_eq_map (exprs : List Expr) : ofExprs exprs = exprs.map ofExpr := by
  induction exprs with
  | nil => rfl
  | cons expr rest induction => rw [ofExprs, induction, List.map_cons]

/-- Tests nodes one after another, up to the first that comes to the settling boolean. -/
def testAll (settling : Bool) : List Node → Evaluation Bool
  | [] => done !settling
  | node :: rest =>
    (test setting node).andThen fun holds =>
      if holds = settling then done settling else testAll settling rest

theorem testAll_singleton (settling : Bool) (node : Node) :
    testAll setting settling [node] = test setting node := by
  have same : ∀ holds,
      (if holds = settling then done settling else done !settling) = done holds := by
    intro holds
    cases holds <;> cases settling <;> rfl
  simp only [testAll, same, andThen_done]

theorem testAll_append (settling : Bool) (first second : List Node) :
    testAll setting settling (first ++ second) =
      (testAll setting settling first).andThen fun holds =>
        if holds = settling then done settling else testAll setting settling second := by
  induction first with
  | nil => simp [testAll]
  | cons node rest induction =>
    rw [List.cons_append, testAll, testAll, andThen_assoc]
    congr 1
    funext holds
    by_cases settles : holds = settling
    · simp [settles]
    · simp [settles, induction]

/-! ## Chains -/

theorem value_join (connective : Connective) (left right : Expr) :
    (ofExpr (connective.join left right)).value setting =
      ((test setting (ofExpr left)).andThen fun holds =>
        if holds = connective.settling then done connective.settling
        else test setting (ofExpr right)).map .bool := by
  rw [map_eq_andThen, andThen_assoc]
  cases connective with
  | and =>
    rw [Connective.join, ofExpr, value]
    congr 1
    funext holds
    cases holds with
    | false => exact (done_andThen _ _).symm
    | true => exact map_eq_andThen _ _
  | or =>
    rw [Connective.join, ofExpr, value]
    congr 1
    funext holds
    cases holds with
    | false => exact map_eq_andThen _ _
    | true => exact (done_andThen _ _).symm

theorem test_join (connective : Connective) (left right : Expr) :
    test setting (ofExpr (connective.join left right)) =
      (test setting (ofExpr left)).andThen fun holds =>
        if holds = connective.settling then done connective.settling
        else test setting (ofExpr right) := by
  rw [test, value_join, expectBool_of_map]

/-- The operands of a chain are tested from left to right up to the first one that settles it. -/
theorem test_of_isChain {connective : Connective} {operands : List Expr} {expr : Expr}
    (chain : expr.IsChain connective operands) :
    test setting (ofExpr expr) = testAll setting connective.settling (ofExprs operands) := by
  induction chain with
  | operand expr => exact (testAll_singleton setting _ _).symm
  | join _ _ leftTests rightTests =>
    rw [test_join, leftTests, rightTests, ofExprs_eq_map, ofExprs_eq_map, ofExprs_eq_map,
      List.map_append, testAll_append]

theorem value_of_isChain {connective : Connective} {operands : List Expr} {expr : Expr}
    (chain : expr.IsChain connective operands) :
    operands = [expr] ∨
      1 < operands.length ∧
        (ofExpr expr).value setting = (test setting (ofExpr expr)).map .bool := by
  cases chain with
  | operand => exact .inl rfl
  | @join first second left right leftChain rightChain =>
    have firstPositive := leftChain.length_pos
    have secondPositive := rightChain.length_pos
    refine .inr ⟨?_, ?_⟩
    · rw [List.length_append]
      omega
    · rw [value_join, test_join]

theorem value_eq_of_isChain {connective : Connective} {operands others : List Expr}
    (alike : ofExprs operands = ofExprs others) {first second : Expr}
    (firstChain : first.IsChain connective operands)
    (secondChain : second.IsChain connective others) :
    (ofExpr first).value setting = (ofExpr second).value setting := by
  have sameTest : test setting (ofExpr first) = test setting (ofExpr second) := by
    rw [test_of_isChain setting firstChain, test_of_isChain setting secondChain, alike]
  have sameLength : operands.length = others.length := by
    simpa [ofExprs_eq_map] using congrArg List.length alike
  rcases value_of_isChain setting firstChain with rfl | ⟨isLong, firstValue⟩
  · rcases value_of_isChain setting secondChain with rfl | ⟨isLong, _⟩
    · rw [List.head_eq_of_cons_eq alike]
    · exact absurd sameLength (Nat.ne_of_lt isLong)
  · rcases value_of_isChain setting secondChain with rfl | ⟨_, secondValue⟩
    · exact absurd sameLength.symm (Nat.ne_of_lt isLong)
    · rw [firstValue, secondValue, sameTest]

end Node

/-! ## Predicates -/

namespace Expr

/-- `StartsWith(Name, 'A')` -/
def startsWithA : Expr :=
  .call Builtin.startsWith
    [.property "Name" [1] .string (.ofNat 11 15), .literal (.string "A") (.ofNat 17 20)]
    (.ofNat 0 21)

/-- `Age > 18` -/
def isAdult : Expr :=
  .relational .greater (.property "Age" [0] .int (.ofNat 25 28))
    (.literal (.int 18) (.ofNat 31 33)) .int

/-- `IsNullOrWhiteSpace(Name)` -/
def isBlank : Expr :=
  .call Builtin.isNullOrWhiteSpace [.property "Name" [1] .string (.ofNat 56 60)] (.ofNat 37 61)

end Expr

namespace Predicate

/-- How the operands of a chain are grouped makes no difference: the judgement of a record is the
same, or fails for the same fault, and makes the same calls in the same order. The operands need
not stand at the same places of a text, as parentheses move them. -/
theorem evaluate_of_isChain {connective : Connective} {operands others : List Expr}
    (alike : Node.ofExprs operands = Node.ofExprs others) {first second : Expr}
    (firstChain : first.IsChain connective operands)
    (secondChain : second.IsChain connective others)
    (context : ObjectType) (caseSensitive : Bool) (clock : Clock) (record : Record) :
    (ofExpr context caseSensitive first).evaluate clock record =
        (ofExpr context caseSensitive second).evaluate clock record ∧
      (Node.ofExpr first).value ⟨record, clock, caseSensitive⟩ =
        (Node.ofExpr second).value ⟨record, clock, caseSensitive⟩ := by
  have sameValue :=
    Node.value_eq_of_isChain ⟨record, clock, caseSensitive⟩ alike firstChain secondChain
  refine ⟨?_, sameValue⟩
  unfold evaluate ofExpr Node.test
  rw [sameValue]

theorem evaluate_of_isChain_homeless :
    (Expr.and (.and .startsWithA .isAdult) .isBlank).IsChain .and
        [.startsWithA, .isAdult, .isBlank] ∧
      (Expr.and .startsWithA (.and .isAdult .isBlank)).IsChain .and
        [.startsWithA, .isAdult, .isBlank] ∧
      ∃ run,
        (ofExpr .person true (.and (.and .startsWithA .isAdult) .isBlank)).evaluate
          (.stopped (.midnight ⟨2024, 1, 1, by decide⟩)) (.homeless 20 "Ada") = run ∧
        (ofExpr .person true (.and .startsWithA (.and .isAdult .isBlank))).evaluate
          (.stopped (.midnight ⟨2024, 1, 1, by decide⟩)) (.homeless 20 "Ada") = run ∧
        run.calls.map (·.function.name) = ["StartsWith", "IsNullOrWhiteSpace"] := by
  have leftGrouped :
      (Expr.and (.and .startsWithA .isAdult) .isBlank).IsChain .and
        [.startsWithA, .isAdult, .isBlank] :=
    .join (.join (.operand .startsWithA) (.operand .isAdult)) (.operand .isBlank)
  have rightGrouped :
      (Expr.and .startsWithA (.and .isAdult .isBlank)).IsChain .and
        [.startsWithA, .isAdult, .isBlank] :=
    .join (.operand .startsWithA) (.join (.operand .isAdult) (.operand .isBlank))
  have same := (evaluate_of_isChain rfl leftGrouped rightGrouped .person true
    (.stopped (.midnight ⟨2024, 1, 1, by decide⟩)) (.homeless 20 "Ada")).1
  exact ⟨leftGrouped, rightGrouped, _, rfl, same.symm, by decide +kernel⟩

end Predicate

end Proviso
