import Proviso.Proofs.Condition.Descent
import Proviso.Proofs.Condition.Direct

/-!
How high the tree of a condition can be. Groups, calls and right operands count as levels when a
condition is read; from one level to the next the tree grows by five nodes at most, one for each
kind of phrase. So the limit on the levels is one on the height, however long the condition is.
-/

namespace Proviso

theorem Expr.height_withDate_le (expr : Expr) : expr.withDate.height ≤ expr.height := by
  unfold withDate
  split
  · exact expr.height_pos
  · exact Nat.le_refl _

namespace Grammar

def Category.meaningHeight : (category : Category) → category.Meaning → Nat
  | .value, expr | .comparison, expr | .negation, expr | .conjunction, expr
  | .disjunction, expr => expr.height
  | .arguments, exprs => Expr.heights exprs

def Category.maxHeight : Category → Nat → Nat
  | .value, depth => max 1 (5 * depth - 1)
  | .comparison, depth => max 2 (5 * depth)
  | .negation, depth => max 3 (5 * depth + 1)
  | .conjunction, depth => max 3 (5 * depth + 2)
  | .disjunction, depth | .arguments, depth => 5 * depth + 3

theorem Phrase.Means.height_le {scope : Scope} {category : Category} {phrase : Phrase category}
    {meaning : category.Meaning} (means : phrase.Means scope meaning) :
    category.meaningHeight meaning ≤ category.maxHeight phrase.depth := by
  -- A rule adds one node at most to the highest of its phrases, and the rules that lead to the next
  -- level add five together.
  induction means with
  | literal => exact Nat.le_max_left ..
  | name means => cases means <;> exact Nat.le_max_left ..
  | emptyCall => exact (by decide : 1 ≤ max 1 (5 * 1 - 1))
  | group _ induction | single _ induction | plain _ induction | lastConjunct _ induction
  | lastDisjunct _ induction | lastArgument _ induction =>
    simp only [Category.meaningHeight, Category.maxHeight, Phrase.depth, Expr.heights]
      at induction ⊢
    omega
  | call _ _ induction | not _ _ induction =>
    simp only [Category.meaningHeight, Category.maxHeight, Phrase.depth, Expr.height] at induction ⊢
    omega
  | relation _ _ _ _ firstInduction secondInduction | and _ _ _ _ firstInduction secondInduction
  | or _ _ _ _ firstInduction secondInduction | argument _ _ firstInduction secondInduction =>
    simp only [Category.meaningHeight, Category.maxHeight, Phrase.depth, Expr.height, Expr.heights]
      at firstInduction secondInduction ⊢
    omega
  | @relationOfMoments _ _ _ _ left right _ _ _ _ _ _ _ leftIsDated rightIsDated firstInduction
      secondInduction =>
    rcases leftIsDated.eq_withDate with rfl
    rcases rightIsDated.eq_withDate with rfl
    -- A text that became a date is still a leaf.
    have leftHeight := left.height_withDate_le
    have rightHeight := right.height_withDate_le
    simp only [Category.meaningHeight, Category.maxHeight, Phrase.depth, Expr.height]
      at firstInduction secondInduction ⊢
    omega

end Grammar

namespace Expr

open Outcome

/-- The limit on nesting bounds the height of a condition that is read, and with it the levels that
are gone down when the condition is made into a node, written, listed for what it refers to, or
evaluated. -/
theorem height_le_of_ofTokens {scope : Scope} {tokens : List Token} {expr : Expr}
    (read : ofTokens scope tokens = .ok expr) :
    expr.height ≤ 5 * scope.maxDepth + 3 ∧ expr.DescendsWithin (5 * scope.maxDepth + 3) := by
  rcases Grammar.ofTokens_eq_ok_iff.mp read with ⟨phrase, _, depth, means, _⟩
  have byDepth : expr.height ≤ 5 * phrase.depth + 3 := means.height_le
  have height : expr.height ≤ 5 * scope.maxDepth + 3 := by omega
  exact ⟨height, descendsWithin_iff.mpr height⟩

/-- `!Known(!Age == 1) == true && true || true` -/
def highTokens : List Token :=
  [⟨.not, .zero⟩, ⟨.functionOpen "Known", .zero⟩, ⟨.not, .zero⟩, ⟨.identifier "Age", .zero⟩,
    ⟨.relation .equal, .zero⟩, ⟨.integer 1, .zero⟩, ⟨.rightParenthesis, .zero⟩,
    ⟨.relation .equal, .zero⟩, ⟨.boolean true, .zero⟩, ⟨.and, .zero⟩, ⟨.boolean true, .zero⟩,
    ⟨.or, .zero⟩, ⟨.boolean true, .zero⟩]

theorem height_le_of_ofTokens_high :
    let library : Library := ⟨[.ofBody "Known" [.bool] .bool fun _ => .ok (.bool true)]⟩
    let scope : Scope := { Scope.people with library, maxDepth := 1 }
    ∃ expr, ofTokens scope highTokens = .ok expr ∧ expr.height = 8 ∧
      expr.height ≤ 5 * scope.maxDepth + 3 ∧ expr.DescendsWithin 8 ∧ ¬ expr.DescendsWithin 7 := by
  intro library scope
  have accepts : (ofTokens scope highTokens).toOption.any (·.height == 8) = true := by
    decide +kernel
  rcases exists_eq_ok_of_any accepts with ⟨expr, read, isHigh⟩
  have isHigh : expr.height = 8 := beq_iff_eq.mp isHigh
  rcases height_le_of_ofTokens read with ⟨height, descends⟩
  refine ⟨expr, read, isHigh, height, descends, ?_⟩
  rw [descendsWithin_iff, isHigh]
  decide

end Expr

end Proviso
