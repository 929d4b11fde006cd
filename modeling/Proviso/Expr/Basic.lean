import Proviso.Function.Basic
import Proviso.Value.Comparison

/-!
Conditions as trees whose names, calls and types are settled: a property knows the slots to
read, a constant its value, a call the function that it means. Every tree has a static type
and covers a stretch of the condition's text.
-/

namespace Proviso

inductive Expr where
  | literal (value : Scalar) (span : Span)
  | property (path : String) (slots : List Nat) (type : Ty) (span : Span)
  | constant (name : String) (value : Scalar) (span : Span)
  | call (function : Function) (arguments : List Expr) (span : Span)
  | not (operand : Expr) (span : Span)
  | and (left right : Expr)
  | or (left right : Expr)
  | relational (relation : Relation) (left right : Expr) (operandType : Ty)

namespace Expr

def type : Expr → Ty
  | .literal value _ => value.type
  | .constant _ value _ => value.type
  | .property _ _ type _ => type
  | .call function _ _ => function.signature.returns
  | _ => .bool

def span : Expr → Span
  | .literal _ span => span
  | .property _ _ _ span => span
  | .constant _ _ span => span
  | .call _ _ span => span
  | .not _ span => span
  | .and left right => left.span.merge right.span
  | .or left right => left.span.merge right.span
  | .relational _ left right _ => left.span.merge right.span

def isNullLiteral : Expr → Bool
  | .literal .null _ => true
  | _ => false

def stringLiteral? : Expr → Option String
  | .literal (.string text) _ => some text
  | _ => none

def isWildcard (expr : Expr) : Bool :=
  expr.stringLiteral? == some wildcard

/-! ## Writing -/

def literalText : Scalar → String
  | .string text => s!"'{text}'"
  | .null => "null"
  | value => value.text

mutual
/-- The tree with parentheses around every operation, which shows how it is grouped. -/
def text : Expr → String
  | .literal value _ => literalText value
  | .property path _ _ _ => path
  | .constant name _ _ => name
  | .call function arguments _ =>
    function.name ++ "(" ++ Text.joined ", " (texts arguments) ++ ")"
  | .not operand _ => "!" ++ operand.text
  | .and left right => "(" ++ left.text ++ " && " ++ right.text ++ ")"
  | .or left right => "(" ++ left.text ++ " || " ++ right.text ++ ")"
  | .relational relation left right _ =>
    "(" ++ left.text ++ " " ++ relation.text ++ " " ++ right.text ++ ")"

def texts : List Expr → List String
  | [] => []
  | expr :: rest => expr.text :: texts rest
end

end Expr

end Proviso
