import Proviso.Calendar.Layout
import Proviso.Expr.Basic
import Proviso.Schema.Family

/-!
The types that operations ask of their operands. Both sides of a comparison must be of one
kind, with three exceptions: a null literal, the wildcard as the target, and a text literal
that says a date, held against a moment. Comparisons that ask for an order are defined for
numbers, moments and texts only.
-/

namespace Proviso

namespace Expr

/-- The moment that a text literal says; the wildcard says none. -/
def dateLiteral? (expr : Expr) : Option Calendar.Moment :=
  match expr.stringLiteral? with
  | some text => if text = wildcard then none else Calendar.readMoment? text.toList
  | none => none

/-- The type of the sides that must support a comparison; none if both sides go with any. -/
def comparedType (relation : Relation) (left right : Expr) : Except Fault (Option Ty) :=
  let leftFree := left.isNullLiteral
  let rightFree := right.isNullLiteral || right.isWildcard
  if leftFree && rightFree then .ok none
  else if leftFree then .ok (some right.type)
  else if rightFree then .ok (some left.type)
  else if left.type.isOf .datetime && right.dateLiteral?.isSome then .ok (some left.type)
  else if right.type.isOf .datetime && left.dateLiteral?.isSome then .ok (some right.type)
  else if left.type.sameUnderlying right.type then .ok (some left.type)
  else
    .error (.typing (.incomparable left.type right.type relation) (left.span.merge right.span))

/-- The type in which the sides are compared: nullable if either side may be null, and if the
target is free. -/
def commonType (compared : Option Ty) (left right : Expr) : Ty :=
  match compared with
  | none => .null
  | some type =>
    let common := if type.isOf .datetime then .datetime else type
    if left.type.isNullable || right.type.isNullable || right.isNullLiteral || right.isWildcard then
      common.orNull
    else common

def operandType (relation : Relation) (left right : Expr) : Except Fault Ty := do
  let compared ← comparedType relation left right
  match compared with
  | some type =>
    if relation.isOrdering && !type.family.isOrdered then
      .error (.typing (.unordered relation type.family type) (left.span.merge right.span))
    else pure (commonType compared left right)
  | none => pure (commonType compared left right)

def withDate (expr : Expr) : Expr :=
  match expr.dateLiteral? with
  | some moment => .literal (.datetime moment) expr.span
  | none => expr

def ofComparison (relation : Relation) (left right : Expr) : Except Fault Expr := do
  let type ← operandType relation left right
  if type.isOf .datetime then pure (.relational relation left.withDate right.withDate type)
  else pure (.relational relation left right type)

def requireBoolean (role : BooleanRole) (expr : Expr) : Except Fault Unit :=
  match expr.type with
  | .bool => .ok ()
  | found => .error (.typing (.notBoolean role found) expr.span)

end Expr

end Proviso
