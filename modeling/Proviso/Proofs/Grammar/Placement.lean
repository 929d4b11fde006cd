import Mathlib.Logic.Basic
import Proviso.Predicate.Basic
import Proviso.Expr.References
import Proviso.Proofs.Grammar.Conditions

/-!
What a condition means does not depend on where its tokens stand. Tokens of the same kinds at
other places are spelled by a phrase of the same depth, which means an expression that differs in
its places only; and neither the predicate nor the references of an expression know of places.
-/

namespace Proviso

open Outcome

namespace Expr

/-! ## Expressions without places -/

mutual
def unplaced : Expr → Expr
  | .literal value _ => .literal value .zero
  | .property path slots type _ => .property path slots type .zero
  | .constant name value _ => .constant name value .zero
  | .call function arguments _ => .call function (unplacedAll arguments) .zero
  | .not operand _ => .not operand.unplaced .zero
  | .and left right => .and left.unplaced right.unplaced
  | .or left right => .or left.unplaced right.unplaced
  | .relational relation left right type => .relational relation left.unplaced right.unplaced type

def unplacedAll : List Expr → List Expr
  | [] => []
  | expr :: rest => expr.unplaced :: unplacedAll rest
end

@[simp] theorem type_unplaced (expr : Expr) : expr.unplaced.type = expr.type := by
  cases expr <;> rfl

@[simp] theorem isNullLiteral_unplaced (expr : Expr) :
    expr.unplaced.isNullLiteral = expr.isNullLiteral := by
  cases expr with
  | literal value => cases value <;> rfl
  | _ => rfl

@[simp] theorem stringLiteral?_unplaced (expr : Expr) :
    expr.unplaced.stringLiteral? = expr.stringLiteral? := by
  cases expr with
  | literal value => cases value <;> rfl
  | _ => rfl

@[simp] theorem isWildcard_unplaced (expr : Expr) : expr.unplaced.isWildcard = expr.isWildcard := by
  rw [isWildcard, stringLiteral?_unplaced, isWildcard]

@[simp] theorem dateLiteral?_unplaced (expr : Expr) :
    expr.unplaced.dateLiteral? = expr.dateLiteral? := by
  rw [dateLiteral?, stringLiteral?_unplaced, dateLiteral?]

theorem span_unplaced_of_dateLiteral? {expr : Expr} {moment : Calendar.Moment}
    (denotes : expr.dateLiteral? = some moment) : expr.unplaced.span = .zero := by
  cases expr with
  | literal value => rfl
  | _ => cases denotes

@[simp] theorem unplaced_withDate (expr : Expr) :
    expr.withDate.unplaced = expr.unplaced.withDate := by
  rw [withDate, withDate, dateLiteral?_unplaced]
  cases denotes : expr.dateLiteral? with
  | none => rfl
  | some moment =>
    dsimp only
    rw [span_unplaced_of_dateLiteral? denotes, unplaced]

theorem types_unplacedAll (exprs : List Expr) :
    (unplacedAll exprs).map (·.type) = exprs.map (·.type) := by
  induction exprs with
  | nil => rfl
  | cons expr rest induction => simp [unplacedAll, induction]

def SameButPlaces (first second : Expr) : Prop :=
  first.unplaced = second.unplaced

namespace SameButPlaces

variable {first second left right : Expr}

theorem type_eq (same : first.SameButPlaces second) : first.type = second.type := by
  rw [← type_unplaced, same, type_unplaced]

theorem isNullLiteral_eq (same : first.SameButPlaces second) :
    first.isNullLiteral = second.isNullLiteral := by
  rw [← isNullLiteral_unplaced, same, isNullLiteral_unplaced]

theorem isWildcard_eq (same : first.SameButPlaces second) :
    first.isWildcard = second.isWildcard := by
  rw [← isWildcard_unplaced, same, isWildcard_unplaced]

theorem dateLiteral?_eq (same : first.SameButPlaces second) :
    first.dateLiteral? = second.dateLiteral? := by
  rw [← dateLiteral?_unplaced, same, dateLiteral?_unplaced]

theorem withDate (same : first.SameButPlaces second) :
    first.withDate.SameButPlaces second.withDate := by
  rw [SameButPlaces, unplaced_withDate, same, unplaced_withDate]

end SameButPlaces

theorem comparedType_eq_ok_iff {relation : Relation} {left right otherLeft otherRight : Expr}
    {compared : Option Ty} (leftSame : left.SameButPlaces otherLeft)
    (rightSame : right.SameButPlaces otherRight) :
    comparedType relation left right = .ok compared ↔
      comparedType relation otherLeft otherRight = .ok compared := by
  unfold comparedType
  rw [leftSame.isNullLiteral_eq, rightSame.isNullLiteral_eq, rightSame.isWildcard_eq,
    leftSame.type_eq, rightSame.type_eq, leftSame.dateLiteral?_eq, rightSame.dateLiteral?_eq]
  -- Only the fault at the end has a place.
  exact ite_eq_ok_congr .rfl <| ite_eq_ok_congr .rfl <| ite_eq_ok_congr .rfl <|
    ite_eq_ok_congr .rfl <| ite_eq_ok_congr .rfl <| ite_eq_ok_congr .rfl <| iff_of_false nofun nofun

theorem commonType_eq {left right otherLeft otherRight : Expr} (compared : Option Ty)
    (leftSame : left.SameButPlaces otherLeft) (rightSame : right.SameButPlaces otherRight) :
    commonType compared left right = commonType compared otherLeft otherRight := by
  unfold commonType
  rw [leftSame.type_eq, rightSame.type_eq, rightSame.isNullLiteral_eq, rightSame.isWildcard_eq]

theorem operandType_eq_ok_iff {relation : Relation} {left right otherLeft otherRight : Expr}
    {type : Ty} (leftSame : left.SameButPlaces otherLeft)
    (rightSame : right.SameButPlaces otherRight) :
    operandType relation left right = .ok type ↔
      operandType relation otherLeft otherRight = .ok type := by
  unfold operandType
  simp only [bind_eq_ok, comparedType_eq_ok_iff leftSame rightSame]
  refine exists_congr fun compared => and_congr_right fun _ => ?_
  rw [commonType_eq compared leftSame rightSame]
  cases compared with
  | none => rfl
  | some basis => exact ite_eq_ok_congr (iff_of_false (by rintro ⟨⟩) (by rintro ⟨⟩)) .rfl

end Expr

/-! ## Predicates and references -/

mutual
theorem Node.ofExpr_unplaced : (expr : Expr) → ofExpr expr.unplaced = ofExpr expr
  | .literal _ _ | .property _ _ _ _ | .constant _ _ _ => rfl
  | .call function arguments _ => congrArg (Node.call function) (ofExprs_unplacedAll arguments)
  | .not operand _ => congrArg Node.not (ofExpr_unplaced operand)
  | .and left right | .or left right | .relational _ left right _ => by
    rw [Expr.unplaced, ofExpr, ofExpr, ofExpr_unplaced left, ofExpr_unplaced right]

theorem Node.ofExprs_unplacedAll : (exprs : List Expr) →
    ofExprs (Expr.unplacedAll exprs) = ofExprs exprs
  | [] => rfl
  | expr :: rest => by
    rw [Expr.unplacedAll, ofExprs, ofExprs, ofExpr_unplaced expr, ofExprs_unplacedAll rest]
end

theorem Node.ofExpr_of_sameButPlaces {first second : Expr} (same : first.SameButPlaces second) :
    ofExpr first = ofExpr second := by
  rw [← ofExpr_unplaced, same, ofExpr_unplaced]

namespace References

mutual
theorem addExpr_unplaced (references : References) : (expr : Expr) →
    references.addExpr expr.unplaced = references.addExpr expr
  | .literal _ _ | .property _ _ _ _ | .constant _ _ _ => rfl
  | .call _ arguments _ => addExprs_unplacedAll references arguments
  | .not operand _ => addExpr_unplaced references operand
  | .and left right | .or left right | .relational _ left right _ => by
    rw [Expr.unplaced, addExpr, addExpr, addExpr_unplaced references left,
      addExpr_unplaced (references.addExpr left) right]

theorem addExprs_unplacedAll (references : References) : (exprs : List Expr) →
    addExprs references (Expr.unplacedAll exprs) = addExprs references exprs
  | [] => rfl
  | expr :: rest => by
    rw [Expr.unplacedAll, addExprs, addExprs, addExpr_unplaced references expr,
      addExprs_unplacedAll (references.addExpr expr) rest]
end

theorem ofExpr_of_sameButPlaces {first second : Expr} (same : first.SameButPlaces second) :
    ofExpr first = ofExpr second := by
  rw [ofExpr, ofExpr, ← addExpr_unplaced, same, addExpr_unplaced]

end References

/-! ## Phrases at other places -/

namespace Grammar

def Category.SameButPlaces : (category : Category) → category.Meaning → category.Meaning → Prop
  | .value, first, second | .comparison, first, second | .negation, first, second
  | .conjunction, first, second | .disjunction, first, second => Expr.SameButPlaces first second
  | .arguments, first, second => Expr.unplacedAll first = Expr.unplacedAll second

theorem NameMeans.placed {scope : Scope} {path : String} {span : Span} {expr : Expr}
    (means : NameMeans scope path span expr) (place : Span) :
    ∃ other, NameMeans scope path place other ∧ expr.SameButPlaces other := by
  cases means with
  | property found => exact ⟨_, .property found, rfl⟩
  | constant noProperty found => exact ⟨_, .constant noProperty found, rfl⟩
  | member noProperty noConstant found => exact ⟨_, .member noProperty noConstant found, rfl⟩

namespace Phrase

/-- That a phrase is another one at other places. -/
structure PlacedAs {category : Category} (phrase placed : Phrase category) : Prop where
  depth : placed.depth = phrase.depth
  means : ∀ scope meaning, phrase.Means scope meaning →
    ∃ other, placed.Means scope other ∧ category.SameButPlaces meaning other

namespace PlacedAs

theorem literal {kind : TokenKind} {value : Scalar} (denotes : literal? kind = some value)
    (span place : Span) :
    (Phrase.literal kind value denotes span).PlacedAs (.literal kind value denotes place) where
  depth := rfl
  means scope meaning means := by
    cases means
    exact ⟨_, .literal, rfl⟩

theorem name (path : String) (span place : Span) :
    (Phrase.name path span).PlacedAs (.name path place) where
  depth := rfl
  means scope meaning means := by
    cases means with
    | name means =>
      rcases means.placed place with ⟨other, otherMeans, same⟩
      exact ⟨other, .name otherMeans, same⟩

theorem emptyCall (callee : String) (start close opened closed : Span) :
    (Phrase.emptyCall callee start close).PlacedAs (.emptyCall callee opened closed) where
  depth := rfl
  means scope meaning means := by
    cases means with
    | emptyCall resolved => exact ⟨_, .emptyCall resolved, rfl⟩

theorem call {arguments placed : Phrase .arguments} (isPlaced : arguments.PlacedAs placed)
    (callee : String) (start close opened closed : Span) :
    (Phrase.call callee start arguments close).PlacedAs (.call callee opened placed closed) where
  depth := congrArg (· + 1) isPlaced.depth
  means scope meaning means := by
    cases means with
    | @call _ _ _ _ exprs function means resolved =>
      rcases isPlaced.means scope exprs means with ⟨others, othersMean, same⟩
      have sameTypes : others.map (·.type) = exprs.map (·.type) := by
        rw [← Expr.types_unplacedAll, ← same, Expr.types_unplacedAll]
      exact ⟨_, .call othersMean (sameTypes ▸ resolved),
        congrArg (Expr.call function · .zero) same⟩

theorem group {inner placed : Phrase .disjunction} (isPlaced : inner.PlacedAs placed)
    (start close opened closed : Span) :
    (Phrase.group start inner close).PlacedAs (.group opened placed closed) where
  depth := congrArg (· + 1) isPlaced.depth
  means scope meaning means := by
    cases means with
    | group means =>
      rcases isPlaced.means scope meaning means with ⟨other, otherMeans, same⟩
      exact ⟨other, .group otherMeans, same⟩

theorem single {value placed : Phrase .value} (isPlaced : value.PlacedAs placed) :
    (Phrase.single value).PlacedAs (.single placed) where
  depth := isPlaced.depth
  means scope meaning means := by
    cases means with
    | single means =>
      rcases isPlaced.means scope meaning means with ⟨other, otherMeans, same⟩
      exact ⟨other, .single otherMeans, same⟩

theorem relation {left right leftPlaced rightPlaced : Phrase .value}
    (leftIsPlaced : left.PlacedAs leftPlaced) (rightIsPlaced : right.PlacedAs rightPlaced)
    (symbol : Relation) (span place : Span) :
    (Phrase.relation left symbol span right).PlacedAs
      (.relation leftPlaced symbol place rightPlaced) where
  depth := congrArg₂ max leftIsPlaced.depth rightIsPlaced.depth
  means scope meaning means := by
    cases means with
    | @relation _ _ _ _ first second type firstMeans secondMeans consistent noMoments =>
      rcases leftIsPlaced.means scope first firstMeans with ⟨left, leftMeans, leftSame⟩
      rcases rightIsPlaced.means scope second secondMeans with ⟨right, rightMeans, rightSame⟩
      have consistent := (Expr.operandType_eq_ok_iff leftSame rightSame).mp consistent
      exact ⟨_, .relation leftMeans rightMeans consistent noMoments,
        congrArg₂ (Expr.relational symbol · · type) leftSame rightSame⟩
    | @relationOfMoments _ _ _ _ first second _ _ type firstMeans secondMeans consistent moments
        leftIsDated rightIsDated =>
      rcases leftIsPlaced.means scope first firstMeans with ⟨left, leftMeans, leftSame⟩
      rcases rightIsPlaced.means scope second secondMeans with ⟨right, rightMeans, rightSame⟩
      have consistent := (Expr.operandType_eq_ok_iff leftSame rightSame).mp consistent
      rcases leftIsDated.eq_withDate with rfl
      rcases rightIsDated.eq_withDate with rfl
      exact ⟨_, .relationOfMoments leftMeans rightMeans consistent moments (dated_withDate left)
          (dated_withDate right),
        congrArg₂ (Expr.relational symbol · · type) leftSame.withDate rightSame.withDate⟩

theorem plain {operand placed : Phrase .comparison} (isPlaced : operand.PlacedAs placed) :
    (Phrase.plain operand).PlacedAs (.plain placed) where
  depth := isPlaced.depth
  means scope meaning means := by
    cases means with
    | plain means =>
      rcases isPlaced.means scope meaning means with ⟨other, otherMeans, same⟩
      exact ⟨other, .plain otherMeans, same⟩

theorem not {operand placed : Phrase .comparison} (isPlaced : operand.PlacedAs placed)
    (span place : Span) : (Phrase.not span operand).PlacedAs (.not place placed) where
  depth := isPlaced.depth
  means scope meaning means := by
    cases means with
    | @not _ _ expr means isBool =>
      rcases isPlaced.means scope expr means with ⟨other, otherMeans, same⟩
      have same : expr.SameButPlaces other := same
      exact ⟨_, .not otherMeans (same.type_eq ▸ isBool), congrArg (Expr.not · .zero) same⟩

theorem lastConjunct {operand placed : Phrase .negation} (isPlaced : operand.PlacedAs placed) :
    (Phrase.lastConjunct operand).PlacedAs (.lastConjunct placed) where
  depth := isPlaced.depth
  means scope meaning means := by
    cases means with
    | lastConjunct means =>
      rcases isPlaced.means scope meaning means with ⟨other, otherMeans, same⟩
      exact ⟨other, .lastConjunct otherMeans, same⟩

theorem and {left leftPlaced : Phrase .negation} {right rightPlaced : Phrase .conjunction}
    (leftIsPlaced : left.PlacedAs leftPlaced) (rightIsPlaced : right.PlacedAs rightPlaced)
    (span place : Span) :
    (Phrase.and left span right).PlacedAs (.and leftPlaced place rightPlaced) where
  depth := congrArg₂ (fun first second => max first (second + 1)) leftIsPlaced.depth
    rightIsPlaced.depth
  means scope meaning means := by
    cases means with
    | @and _ _ _ first second firstMeans secondMeans firstIsBool secondIsBool =>
      rcases leftIsPlaced.means scope first firstMeans with ⟨left, leftMeans, leftSame⟩
      rcases rightIsPlaced.means scope second secondMeans with ⟨right, rightMeans, rightSame⟩
      have leftSame : first.SameButPlaces left := leftSame
      have rightSame : second.SameButPlaces right := rightSame
      exact ⟨_, .and leftMeans rightMeans (leftSame.type_eq ▸ firstIsBool)
        (rightSame.type_eq ▸ secondIsBool), congrArg₂ Expr.and leftSame rightSame⟩

theorem lastDisjunct {operand placed : Phrase .conjunction} (isPlaced : operand.PlacedAs placed) :
    (Phrase.lastDisjunct operand).PlacedAs (.lastDisjunct placed) where
  depth := isPlaced.depth
  means scope meaning means := by
    cases means with
    | lastDisjunct means =>
      rcases isPlaced.means scope meaning means with ⟨other, otherMeans, same⟩
      exact ⟨other, .lastDisjunct otherMeans, same⟩

theorem or {left leftPlaced : Phrase .conjunction} {right rightPlaced : Phrase .disjunction}
    (leftIsPlaced : left.PlacedAs leftPlaced) (rightIsPlaced : right.PlacedAs rightPlaced)
    (span place : Span) :
    (Phrase.or left span right).PlacedAs (.or leftPlaced place rightPlaced) where
  depth := congrArg₂ (fun first second => max first (second + 1)) leftIsPlaced.depth
    rightIsPlaced.depth
  means scope meaning means := by
    cases means with
    | @or _ _ _ first second firstMeans secondMeans firstIsBool secondIsBool =>
      rcases leftIsPlaced.means scope first firstMeans with ⟨left, leftMeans, leftSame⟩
      rcases rightIsPlaced.means scope second secondMeans with ⟨right, rightMeans, rightSame⟩
      have leftSame : first.SameButPlaces left := leftSame
      have rightSame : second.SameButPlaces right := rightSame
      exact ⟨_, .or leftMeans rightMeans (leftSame.type_eq ▸ firstIsBool)
        (rightSame.type_eq ▸ secondIsBool), congrArg₂ Expr.or leftSame rightSame⟩

theorem lastArgument {last placed : Phrase .disjunction} (isPlaced : last.PlacedAs placed) :
    (Phrase.lastArgument last).PlacedAs (.lastArgument placed) where
  depth := isPlaced.depth
  means scope meaning means := by
    cases means with
    | @lastArgument _ expr means =>
      rcases isPlaced.means scope expr means with ⟨other, otherMeans, same⟩
      exact ⟨[other], .lastArgument otherMeans, congrArg ([·]) same⟩

theorem argument {first firstPlaced : Phrase .disjunction} {rest restPlaced : Phrase .arguments}
    (firstIsPlaced : first.PlacedAs firstPlaced) (restIsPlaced : rest.PlacedAs restPlaced)
    (span place : Span) :
    (Phrase.argument first span rest).PlacedAs (.argument firstPlaced place restPlaced) where
  depth := congrArg₂ max firstIsPlaced.depth restIsPlaced.depth
  means scope meaning means := by
    cases means with
    | @argument _ _ _ expr exprs firstMeans restMeans =>
      rcases firstIsPlaced.means scope expr firstMeans with ⟨other, otherMeans, same⟩
      rcases restIsPlaced.means scope exprs restMeans with ⟨others, othersMean, restSame⟩
      exact ⟨other :: others, .argument otherMeans othersMean,
        congrArg₂ List.cons same restSame⟩

end PlacedAs

theorem exists_place {tokens : List Token} {first : Token} {rest : List Token}
    (same : tokens.map Token.kind = (first :: rest).map Token.kind) :
    ∃ place others, tokens = ⟨first.kind, place⟩ :: others ∧
      others.map Token.kind = rest.map Token.kind := by
  rw [List.map_cons] at same
  rcases List.map_eq_cons_iff.mp same with ⟨token, others, rfl, sameKind, sameRest⟩
  exact ⟨token.span, others, by rw [← sameKind], sameRest⟩

theorem exists_places {tokens before : List Token} {joint : Token} {after : List Token}
    (same : tokens.map Token.kind = (before ++ joint :: after).map Token.kind) :
    ∃ place first second, tokens = first ++ ⟨joint.kind, place⟩ :: second ∧
      first.map Token.kind = before.map Token.kind ∧
        second.map Token.kind = after.map Token.kind := by
  rw [List.map_append] at same
  rcases List.map_eq_append_iff.mp same with ⟨first, behind, rfl, sameFirst, sameBehind⟩
  rcases exists_place sameBehind with ⟨place, second, rfl, sameSecond⟩
  exact ⟨place, first, second, rfl, sameFirst, sameSecond⟩

theorem exists_placed {category : Category} (phrase : Phrase category) {tokens : List Token}
    (same : tokens.map Token.kind = phrase.tokens.map Token.kind) :
    ∃ placed : Phrase category, placed.tokens = tokens ∧ phrase.PlacedAs placed := by
  induction phrase generalizing tokens with
  | literal kind value denotes span =>
    rcases exists_place same with ⟨place, others, rfl, none⟩
    rw [List.map_eq_nil_iff.mp none]
    exact ⟨.literal kind value denotes place, rfl, .literal denotes span place⟩
  | name path span =>
    rcases exists_place same with ⟨place, others, rfl, none⟩
    rw [List.map_eq_nil_iff.mp none]
    exact ⟨.name path place, rfl, .name path span place⟩
  | emptyCall callee start close =>
    rcases exists_place same with ⟨opened, others, rfl, behind⟩
    rcases exists_place behind with ⟨closed, others, rfl, none⟩
    rw [List.map_eq_nil_iff.mp none]
    exact ⟨.emptyCall callee opened closed, rfl, .emptyCall ..⟩
  | call callee start arguments close induction =>
    rcases exists_place same with ⟨opened, others, rfl, behind⟩
    rcases exists_places behind with ⟨closed, inside, others, rfl, sameInside, none⟩
    rw [List.map_eq_nil_iff.mp none]
    rcases induction sameInside with ⟨placed, rfl, isPlaced⟩
    exact ⟨.call callee opened placed closed, rfl, isPlaced.call ..⟩
  | group start inner close induction =>
    rcases exists_place same with ⟨opened, others, rfl, behind⟩
    rcases exists_places behind with ⟨closed, inside, others, rfl, sameInside, none⟩
    rw [List.map_eq_nil_iff.mp none]
    rcases induction sameInside with ⟨placed, rfl, isPlaced⟩
    exact ⟨.group opened placed closed, rfl, isPlaced.group ..⟩
  | single value induction =>
    rcases induction same with ⟨placed, rfl, isPlaced⟩
    exact ⟨.single placed, rfl, isPlaced.single⟩
  | relation left symbol span right leftInduction rightInduction =>
    rcases exists_places same with ⟨place, before, after, rfl, sameBefore, sameAfter⟩
    rcases leftInduction sameBefore with ⟨leftPlaced, rfl, leftIsPlaced⟩
    rcases rightInduction sameAfter with ⟨rightPlaced, rfl, rightIsPlaced⟩
    exact ⟨.relation leftPlaced symbol place rightPlaced, rfl,
      leftIsPlaced.relation rightIsPlaced ..⟩
  | plain operand induction =>
    rcases induction same with ⟨placed, rfl, isPlaced⟩
    exact ⟨.plain placed, rfl, isPlaced.plain⟩
  | not span operand induction =>
    rcases exists_place same with ⟨place, others, rfl, behind⟩
    rcases induction behind with ⟨placed, rfl, isPlaced⟩
    exact ⟨.not place placed, rfl, isPlaced.not ..⟩
  | lastConjunct operand induction =>
    rcases induction same with ⟨placed, rfl, isPlaced⟩
    exact ⟨.lastConjunct placed, rfl, isPlaced.lastConjunct⟩
  | and left span right leftInduction rightInduction =>
    rcases exists_places same with ⟨place, before, after, rfl, sameBefore, sameAfter⟩
    rcases leftInduction sameBefore with ⟨leftPlaced, rfl, leftIsPlaced⟩
    rcases rightInduction sameAfter with ⟨rightPlaced, rfl, rightIsPlaced⟩
    exact ⟨.and leftPlaced place rightPlaced, rfl, leftIsPlaced.and rightIsPlaced ..⟩
  | lastDisjunct operand induction =>
    rcases induction same with ⟨placed, rfl, isPlaced⟩
    exact ⟨.lastDisjunct placed, rfl, isPlaced.lastDisjunct⟩
  | or left span right leftInduction rightInduction =>
    rcases exists_places same with ⟨place, before, after, rfl, sameBefore, sameAfter⟩
    rcases leftInduction sameBefore with ⟨leftPlaced, rfl, leftIsPlaced⟩
    rcases rightInduction sameAfter with ⟨rightPlaced, rfl, rightIsPlaced⟩
    exact ⟨.or leftPlaced place rightPlaced, rfl, leftIsPlaced.or rightIsPlaced ..⟩
  | lastArgument last induction =>
    rcases induction same with ⟨placed, rfl, isPlaced⟩
    exact ⟨.lastArgument placed, rfl, isPlaced.lastArgument⟩
  | argument first span rest firstInduction restInduction =>
    rcases exists_places same with ⟨place, before, after, rfl, sameBefore, sameAfter⟩
    rcases firstInduction sameBefore with ⟨firstPlaced, rfl, firstIsPlaced⟩
    rcases restInduction sameAfter with ⟨restPlaced, rfl, restIsPlaced⟩
    exact ⟨.argument firstPlaced place restPlaced, rfl, firstIsPlaced.argument restIsPlaced ..⟩

end Phrase

end Grammar

end Proviso
