import Proviso.Schema.Type

/-!
Values and records. A record holds one value for each field of its type, in the order of the
slots; a value is a single one or a record.
-/

namespace Proviso

mutual
inductive Value where
  | scalar (value : Scalar)
  | object (record : Record)

structure Record where
  type : ObjectType
  values : List Value
end

instance : Inhabited Value := ⟨.scalar .null⟩

namespace Value

@[match_pattern] abbrev null : Value := .scalar .null

@[match_pattern] abbrev bool (value : Bool) : Value := .scalar (.bool value)

@[match_pattern] abbrev int (value : Int64) : Value := .scalar (.int value)

@[match_pattern] abbrev float (value : Float) : Value := .scalar (.float value)

@[match_pattern] abbrev string (value : String) : Value := .scalar (.string value)

@[match_pattern] abbrev datetime (value : Calendar.Moment) : Value := .scalar (.datetime value)

@[match_pattern] abbrev timespan (value : Calendar.Duration) : Value := .scalar (.timespan value)

@[match_pattern] abbrev guid (value : Guid) : Value := .scalar (.guid value)

@[match_pattern] abbrev enum (value : EnumValue) : Value := .scalar (.enum value)

def kind : Value → String
  | .scalar value => value.kind
  | .object _ => "object"

def isNull : Value → Bool
  | .null => true
  | _ => false

def string? : Value → Option String
  | .string value => some value
  | _ => none

def bool? : Value → Option Bool
  | .bool value => some value
  | _ => none

def intToFloat (value : Int64) : Float :=
  Float.ofInt value.toInt

def number? : Value → Option Float
  | .int value => some (intToFloat value)
  | .float value => some value
  | _ => none

def type : Value → Ty
  | .scalar value => value.type
  | .object record => .object record.type

/-- The text shown to people; a record shows the name of its type. -/
def text : Value → String
  | .scalar value => value.text
  | .object record => record.type.name

def widenTo (expected : Ty) (value : Value) : Value :=
  match expected.underlying, value with
  | .float, .int value => .float (intToFloat value)
  | _, value => value

end Value

/-! ## Agreement -/

mutual
/-- Whether two values are the same; records are so only within one type, field by field. -/
def Value.agrees : Value → Value → Bool
  | .scalar first, .scalar second => first.agrees second
  | .object first, .object second => first.agrees second
  | _, _ => false

def Record.agrees : Record → Record → Bool
  | ⟨type, values⟩, ⟨other, others⟩ => type.id == other.id && valuesAgree values others

def valuesAgree : List Value → List Value → Bool
  | [], [] => true
  | first :: rest, second :: others => first.agrees second && valuesAgree rest others
  | _, _ => false
end

/-! ## Inhabitants of types -/

def Ty.admits : Ty → Value → Bool
  | .nullable _, .null => true
  | .null, .null => true
  | .nullable inner, value => inner.admits value
  | .bool, .bool _ => true
  | .int, .int _ => true
  | .float, .float _ => true
  | .string, .string _ => true
  | .datetime, .datetime _ => true
  | .timespan, .timespan _ => true
  | .guid, .guid _ => true
  | .enum type, .enum value => type.agrees value.type && (type.memberOf? value.value).isSome
  | .object type, .object record => record.type.id == type.id
  | _, _ => false

namespace Record

/-! ## Reading fields -/

def get? (record : Record) (name : String) : Option Value :=
  (record.type.field? name).bind fun (slot, _) => record.values[slot]?

/-- The value at the end of a path of names from a value; behind null everything is null. -/
def follow : Value → List String → Option Value
  | value, [] => some value
  | .object record, segment :: rest => (record.get? segment).bind (follow · rest)
  | .null, _ :: _ => some .null
  | _, _ :: _ => none

def at? (record : Record) : List String → Option Value
  | [] => none
  | segment :: rest => (record.get? segment).bind (follow · rest)

/-- The value at a path of slots, null where an object is missing. -/
def slotsFrom : Value → List Nat → Value
  | value, [] => value
  | .object record, slot :: rest => slotsFrom (record.values[slot]?.getD .null) rest
  | _, _ :: _ => .null

def atSlots (record : Record) : List Nat → Value
  | [] => .null
  | slot :: rest => slotsFrom (record.values[slot]?.getD .null) rest

end Record

end Proviso
