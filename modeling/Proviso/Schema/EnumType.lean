import Proviso.Schema.Fault

/-!
Enumerations: named members that stand for whole numbers. Two members may share a number; the
one declared first gives the number its name.
-/

namespace Proviso

structure EnumType where
  name : String
  members : List (String × Int64)
  distinct : (members.map Prod.fst).Nodup
  deriving DecidableEq

namespace EnumType

def repeatedName? (before : List String) : List (String × Int64) → Option String
  | [] => none
  | (name, _) :: rest =>
    if before.contains name then some name else repeatedName? (name :: before) rest

def ofMembers (name : String) (members : List (String × Int64)) : Except SchemaFault EnumType :=
  if distinct : (members.map Prod.fst).Nodup then .ok ⟨name, members, distinct⟩
  else .error (.repeatedMember name ((repeatedName? [] members).getD ""))

def valueOf? (type : EnumType) (member : String) : Option Int64 :=
  type.members.lookup member

/-- The first member that stands for a number. -/
def memberOf? (type : EnumType) (value : Int64) : Option String :=
  (type.members.find? (·.2 == value)).map Prod.fst

/-- Whether two enumerations are the same: the order of the members does not matter. -/
def agrees (first second : EnumType) : Bool :=
  first.name == second.name && first.members.length == second.members.length &&
    first.members.all fun (member, value) => second.valueOf? member == some value

end EnumType

/-- A number taken as a value of an enumeration. -/
structure EnumValue where
  type : EnumType
  value : Int64
  deriving DecidableEq

namespace EnumValue

def ofMember (type : EnumType) (member : String) : Except SchemaFault EnumValue :=
  match type.valueOf? member with
  | some value => .ok ⟨type, value⟩
  | none => .error (.unknownMember type.name member)

def agrees (first second : EnumValue) : Bool :=
  first.type.agrees second.type && first.value == second.value

end EnumValue

end Proviso
