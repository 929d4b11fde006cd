import Proviso.Expr.Basic
import Proviso.Predicate.Run

/-!
Predicates: conditions reduced to what their evaluation needs, and bound to the type of the
records that they judge.
-/

namespace Proviso

inductive Node where
  | constant (value : Scalar)
  | field (slots : List Nat)
  | call (function : Function) (arguments : List Node)
  | not (operand : Node)
  | and (left right : Node)
  | or (left right : Node)
  | relational (relation : Relation) (left right : Node)

namespace Node

mutual
def ofExpr : Expr → Node
  | .literal value _ => .constant value
  | .constant _ value _ => .constant value
  | .property _ slots _ _ => .field slots
  | .call function arguments _ => .call function (ofExprs arguments)
  | .not operand _ => .not (ofExpr operand)
  | .and left right => .and (ofExpr left) (ofExpr right)
  | .or left right => .or (ofExpr left) (ofExpr right)
  | .relational relation left right _ => .relational relation (ofExpr left) (ofExpr right)

def ofExprs : List Expr → List Node
  | [] => []
  | expr :: rest => ofExpr expr :: ofExprs rest
end

end Node

structure Setting where
  record : Record
  clock : Clock
  caseSensitive : Bool

namespace Node

def compare (setting : Setting) (relation : Relation) (dependent target : Value) :
    Evaluation Value :=
  .ofOutcome <| ((dependent.compare relation setting.caseSensitive target).map .bool).mapError
    .comparisonFailed

mutual
/-- The value of a node: operands from left to right, the right one of `&&` only after a true
left one, and that of `||` only after a false one. -/
def value (setting : Setting) : Node → Evaluation Value
  | .constant value => .done (.scalar value)
  | .field slots => .done (setting.record.atSlots slots)
  | .call function arguments =>
    (values setting arguments).andThen fun arguments =>
      Evaluation.call setting.clock function arguments
  | .not operand =>
    ((value setting operand).andThen Evaluation.expectBool).map fun operand => .bool !operand
  | .and left right =>
    ((value setting left).andThen Evaluation.expectBool).andThen fun holds =>
      if holds then ((value setting right).andThen Evaluation.expectBool).map .bool
      else .done (.bool false)
  | .or left right =>
    ((value setting left).andThen Evaluation.expectBool).andThen fun holds =>
      if holds then .done (.bool true)
      else ((value setting right).andThen Evaluation.expectBool).map .bool
  | .relational relation left right =>
    (value setting left).andThen fun dependent =>
      (value setting right).andThen fun target => compare setting relation dependent target

def values (setting : Setting) : List Node → Evaluation (List Value)
  | [] => .done []
  | node :: rest =>
    (value setting node).andThen fun value =>
      (values setting rest).map fun others => value :: others
end

def test (setting : Setting) (node : Node) : Evaluation Bool :=
  (node.value setting).andThen Evaluation.expectBool

end Node

structure Predicate where
  context : ObjectType
  root : Node
  caseSensitive : Bool

namespace Predicate

def ofExpr (context : ObjectType) (caseSensitive : Bool) (expr : Expr) : Predicate :=
  ⟨context, .ofExpr expr, caseSensitive⟩

def evaluate (predicate : Predicate) (clock : Clock) (record : Record) : Run Bool :=
  if record.type.id = predicate.context.id then
    predicate.root.test ⟨record, clock, predicate.caseSensitive⟩ 0
  else ⟨[], .error (.wrongRecord predicate.context.name record.type.name)⟩

theorem evaluate_ofExpr {context : ObjectType} {caseSensitive : Bool} {expr : Expr}
    {record : Record} (ofContext : record.type = context) (clock : Clock) :
    (ofExpr context caseSensitive expr).evaluate clock record =
      Node.test ⟨record, clock, caseSensitive⟩ (.ofExpr expr) 0 :=
  if_pos (congrArg ObjectType.id ofContext)

end Predicate

end Proviso
