import Proviso.Schema.Type

/-!
Families of types: the coarse kinds by which comparisons are checked, and under which a
condition's fields are reported.
-/

namespace Proviso

inductive Family where
  | numeric
  | string
  | bool
  | datetime
  | guid
  | timespan
  | enum
  | other
  deriving DecidableEq

namespace Family

def name : Family → String
  | .numeric => "numeric"
  | .string => "string"
  | .bool => "bool"
  | .datetime => "datetime"
  | .guid => "guid"
  | .timespan => "timespan"
  | .enum => "enum"
  | .other => "other"

def isOrdered : Family → Bool
  | .numeric => true
  | .datetime => true
  | .string => true
  | _ => false

end Family

namespace Ty

def plainFamily : Ty → Family
  | .int => .numeric
  | .float => .numeric
  | .string => .string
  | .bool => .bool
  | .datetime => .datetime
  | .guid => .guid
  | .timespan => .timespan
  | .enum _ => .enum
  | _ => .other

/-- The family of a type, nullability left aside. A second level of it hides an enumeration. -/
def family (type : Ty) : Family :=
  match type.underlying with
  | .nullable (.enum _) => .other
  | .nullable inner => inner.plainFamily
  | plain => plain.plainFamily

/-- Whether a type, without one level of nullability, belongs to a family. -/
def isOf (type : Ty) (family : Family) : Bool :=
  type.underlying.plainFamily == family

end Ty

end Proviso
