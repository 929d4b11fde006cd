import Proviso.Expr.Basic
import Proviso.Schema.Family
import Proviso.Value.Json

/-!
The properties and constants that a condition refers to, each once, in the order of their first
occurrence. Both are made into one tree of names where the condition is evaluated elsewhere, so
no property may lie on the way to a constant, nor a constant on the way to a property.
-/

namespace Proviso

structure References where
  fields : List (String × Family)
  constants : List (String × Scalar)

namespace References

def empty : References :=
  ⟨[], []⟩

def addNew {α : Type} (entries : List (String × α)) (name : String) (value : α) :
    List (String × α) :=
  if entries.any (·.1 == name) then entries else entries ++ [(name, value)]

def addField (references : References) (path : String) (family : Family) : References :=
  { references with fields := addNew references.fields path family }

def addConstant (references : References) (name : String) (value : Scalar) : References :=
  { references with constants := addNew references.constants name value }

mutual
def addExpr (references : References) : Expr → References
  | .literal _ _ => references
  | .property path _ type _ => references.addField path type.family
  | .constant name value _ => references.addConstant name value
  | .call _ arguments _ => addExprs references arguments
  | .not operand _ => references.addExpr operand
  | .and left right => (references.addExpr left).addExpr right
  | .or left right => (references.addExpr left).addExpr right
  | .relational _ left right _ => (references.addExpr left).addExpr right

def addExprs (references : References) : List Expr → References
  | [] => references
  | expr :: rest => addExprs (references.addExpr expr) rest
end

/-! ## Collisions -/

/-- The last segment of the shorter of two paths with its index, if the longer path begins
with the shorter one. -/
def sharedSegment? (index : Nat) : List String → List String → Option (Nat × String)
  | [segment], other :: _ => if segment = other then some (index, segment) else none
  | segment :: _, [other] => if segment = other then some (index, segment) else none
  | segment :: rest, other :: others =>
    if segment = other then sharedSegment? (index + 1) rest others else none
  | _, _ => none

def collisionOf? (field : String) (constants : List String) : Option Fault :=
  constants.findSome? fun constant =>
    (sharedSegment? 0 (Text.segments field) (Text.segments constant)).map
      fun (segment, name) => .naming field constant segment name

def collision? (fields constants : List String) : Option Fault :=
  fields.findSome? fun field => collisionOf? field constants

def ofExpr (expr : Expr) : Except Fault References :=
  let references := empty.addExpr expr
  match collision? (references.fields.map (·.1)) (references.constants.map (·.1)) with
  | some fault => .error fault
  | none => .ok references

/-! ## Writing -/

def toJson (references : References) : Json :=
  .object [
    ("fields", .object (references.fields.map fun (path, family) => (path, .string family.name))),
    ("consts", .object (references.constants.map fun (name, value) => (name, value.toJson)))]

end References

end Proviso
