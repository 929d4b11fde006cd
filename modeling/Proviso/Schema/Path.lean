import Proviso.Schema.Type

/-!
Paths of fields through nested object types: looking up the field that a path ends at,
resolving a path to slots, and collecting the enumerations that paths end at.
-/

namespace Proviso.ObjectType

def fieldAt? (type : ObjectType) : List String → Option Field
  | [] => none
  | [segment] => (type.field? segment).map Prod.snd
  | segment :: next :: rest =>
    match type.field? segment with
    | some (_, field) =>
      match field.type.underlying with
      | .object nested => nested.fieldAt? (next :: rest)
      | _ => none
    | none => none

/-- The slots along a path and the type at its end, which is nullable as soon as an object on
the way is. Fails with the first segment that cannot be found. -/
def resolve (type : ObjectType) (lifted : Bool) : List String → Except String (List Nat × Ty)
  | [] => .error ""
  | [segment] =>
    match type.field? segment with
    | some (slot, field) => .ok ([slot], if lifted then field.type.orNull else field.type)
    | none => .error segment
  | segment :: next :: rest =>
    match type.field? segment with
    | some (slot, field) =>
      match field.type.underlying with
      | .object nested =>
        (nested.resolve (lifted || field.type.isNullable) (next :: rest)).map
          fun (slots, type) => (slot :: slots, type)
      | _ => .error next
    | none => .error segment

end ObjectType

/-! ## Reachable enumerations -/

mutual
/-- The number of object types in a type, counted as often as they occur. -/
def Ty.objectCount : Ty → Nat
  | .object type => type.objectCount
  | .nullable inner => inner.objectCount
  | _ => 0

def ObjectType.objectCount : ObjectType → Nat
  | ⟨_, _, fields, _⟩ => fieldObjectCount fields + 1

def fieldObjectCount : List Field → Nat
  | [] => 0
  | field :: rest => field.objectCount + fieldObjectCount rest

def Field.objectCount : Field → Nat
  | ⟨_, type, _⟩ => type.objectCount
end

/-- The state of a walk over object types: the ones still to visit, the last one first, the
identities of all that were ever put there, and the enumerations found. -/
structure TypeWalk where
  pending : List ObjectType
  seen : List Nat
  found : List EnumType

namespace TypeWalk

def visitField (walk : TypeWalk) (field : Field) : TypeWalk :=
  match field.type.underlying with
  | .enum type =>
    if walk.found.any (·.agrees type) then walk
    else { walk with found := walk.found ++ [type] }
  | .object type =>
    if walk.seen.contains type.id then walk
    else { walk with pending := type :: walk.pending, seen := type.id :: walk.seen }
  | _ => walk

def run : Nat → TypeWalk → List EnumType
  | 0, walk => walk.found
  | fuel + 1, walk =>
    match walk.pending with
    | [] => walk.found
    | type :: pending => run fuel (type.fields.foldl visitField { walk with pending })

end TypeWalk

/-- The enumerations of the fields of a type and of the object types nested in it, each once. -/
def ObjectType.reachableEnums (type : ObjectType) : List EnumType :=
  TypeWalk.run (type.objectCount + 1) ⟨[type], [type.id], []⟩

end Proviso
