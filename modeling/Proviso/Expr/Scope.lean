import Proviso.Expr.Basic
import Proviso.Function.Library
import Proviso.Schema.Path

/-!
What the names of a condition mean: a property of the context type comes before a constant of
it, and a constant before a member of an enumeration.
-/

namespace Proviso

/-- Everything that a condition is read against: the type of the records, the functions, the
enumerations whose members may be named, and how deeply it may be nested. -/
structure Scope where
  context : ObjectType
  library : Library
  enums : List EnumType
  maxDepth : Nat

namespace Scope

/-- The value of `Enum.Member`, from the first enumeration of the name that has the member. -/
def enumMember? (scope : Scope) (path : String) : Option EnumValue :=
  match Text.cutSegment? path with
  | some (name, member) =>
    (scope.enums.filter (·.name == name)).findSome? fun type =>
      (type.valueOf? member).map fun value => ⟨type, value⟩
  | none => none

def constant? (scope : Scope) (name : String) : Option Scalar :=
  match scope.context.constant? name with
  | some value => some value
  | none => (scope.enumMember? name).map .enum

def resolveName (scope : Scope) (path : String) (span : Span) : Except Fault Expr :=
  match scope.context.resolve false (Text.segments path) with
  | .ok (slots, type) => .ok (.property path slots type span)
  | .error segment =>
    match scope.constant? path with
    | some value => .ok (.constant path value span)
    | none => .error (.grammar (.missingMember segment path scope.context.name) span)

def resolveCall (scope : Scope) (name : String) (arguments : List Expr) (span : Span) :
    Except Fault Expr :=
  let types := arguments.map (·.type)
  match scope.library.resolve name types with
  | some function => .ok (.call function arguments span)
  | none =>
    match scope.library.overloads name with
    | [] => .error (.grammar (.unknownFunction name) span)
    | candidates => .error (.grammar (.noOverload name types (candidates.map (·.signature))) span)

end Scope

end Proviso
