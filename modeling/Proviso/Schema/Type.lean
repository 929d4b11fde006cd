import Proviso.Value.Scalar

/-!
The static types of fields, literals and function results. An object type lists the fields
that a condition may read, in the order of their slots, and the constants that it may name.
Every object type has an identity of its own, given when it is built: two types with the same
fields are different types.
-/

namespace Proviso

mutual
inductive Ty where
  | bool
  | int
  | float
  | string
  | datetime
  | timespan
  | guid
  | enum (type : EnumType)
  | object (type : ObjectType)
  | nullable (inner : Ty)
  | null

structure ObjectType where
  id : Nat
  name : String
  fields : List Field
  constants : List (String × Scalar)

structure Field where
  name : String
  type : Ty
  label : Option String
end

instance : Inhabited Ty := ⟨.null⟩

namespace Field

/-- The name shown to people, by default the one used in conditions. -/
def displayName (field : Field) : String :=
  field.label.getD field.name

end Field

namespace Ty

/-! ## Nullability -/

/-- The type with null added; a type that has null already stays as it is. -/
def orNull : Ty → Ty
  | .nullable inner => .nullable inner
  | .null => .null
  | type => .nullable type

def isNullable : Ty → Bool
  | .nullable _ => true
  | .null => true
  | _ => false

/-- The type without one level of nullability. -/
def underlying : Ty → Ty
  | .nullable inner => inner
  | type => type

def liftWith (type other : Ty) : Ty :=
  if other.isNullable && !type.isNullable then type.orNull else type

/-! ## Agreement -/

/-- Whether two types are the same; enumerations by their members, object types by identity. -/
def agrees : Ty → Ty → Bool
  | .bool, .bool => true
  | .int, .int => true
  | .float, .float => true
  | .string, .string => true
  | .datetime, .datetime => true
  | .timespan, .timespan => true
  | .guid, .guid => true
  | .enum first, .enum second => first.agrees second
  | .object first, .object second => first.id == second.id
  | .nullable first, .nullable second => first.agrees second
  | .null, .null => true
  | _, _ => false

def isNumeric : Ty → Bool
  | .int => true
  | .float => true
  | _ => false

/-- Whether values of the two types can be compared: nullability is left aside, and all
numbers are of one kind. -/
def sameUnderlying (first second : Ty) : Bool :=
  (first.underlying.isNumeric && second.underlying.isNumeric) ||
    first.underlying.agrees second.underlying

/-! ## Writing -/

def text : Ty → String
  | .bool => "bool"
  | .int => "int"
  | .float => "float"
  | .string => "string"
  | .datetime => "datetime"
  | .timespan => "timespan"
  | .guid => "guid"
  | .enum type => type.name
  | .object type => type.name
  | .nullable inner => inner.text ++ "?"
  | .null => "null"

@[simp] theorem isNullable_orNull (type : Ty) : type.orNull.isNullable = true := by
  cases type <;> rfl

end Ty

def Scalar.type : Scalar → Ty
  | .null => .null
  | .bool _ => .bool
  | .int _ => .int
  | .float _ => .float
  | .string _ => .string
  | .datetime _ => .datetime
  | .timespan _ => .timespan
  | .guid _ => .guid
  | .enum value => .enum value.type

namespace ObjectType

def fieldFrom? (name : String) (slot : Nat) : List Field → Option (Nat × Field)
  | [] => none
  | field :: rest => if field.name = name then some (slot, field) else fieldFrom? name (slot + 1) rest

def field? (type : ObjectType) (name : String) : Option (Nat × Field) :=
  fieldFrom? name 0 type.fields

def constant? (type : ObjectType) (name : String) : Option Scalar :=
  type.constants.lookup name

end ObjectType

end Proviso
