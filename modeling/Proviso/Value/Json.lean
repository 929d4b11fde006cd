import Proviso.Calendar.Layout
import Proviso.Json.Writer
import Proviso.Value.Builder

/-!
Values as JSON data and back. Dates, durations and identifiers are written as their texts, and
members of enumerations as their numbers; read are also the names of members.
-/

namespace Proviso

/-! ## Writing -/

def Json.ofFloat (value : Float) : Json :=
  match Number.magnitude value with
  | .nan => .null
  | .infinite => .null
  | _ => .float value

def Scalar.toJson : Scalar → Json
  | .null => .null
  | .bool value => .bool value
  | .int value => .int value.toInt
  | .float value => Json.ofFloat value
  | .string value => .string value
  | .datetime value => .string value.text
  | .timespan value => .string value.text
  | .guid value => .string value.text
  | .enum value => .int value.value.toInt

mutual
def Value.toJson : Value → Json
  | .scalar value => value.toJson
  | .object record => record.toJson

def Record.toJson : Record → Json
  | ⟨type, values⟩ => .object (entriesToJson type.fields values)

def entriesToJson : List Field → List Value → List (String × Json)
  | field :: fields, value :: values => (field.name, value.toJson) :: entriesToJson fields values
  | _, _ => []
end

/-! ## Reading -/

namespace Json

def bool? : Json → Option Bool
  | .bool value => some value
  | _ => none

def int64? : Json → Option Int64
  | .int value => Number.int64? value
  | _ => none

def number? : Json → Option Float
  | .int value => some (Float.ofInt value)
  | .float value => some value
  | _ => none

def string? : Json → Option String
  | .string value => some value
  | _ => none

def isNull : Json → Bool
  | .null => true
  | _ => false

end Json

def EnumValue.ofJson? (type : EnumType) (json : Json) : Option (Except SchemaFault EnumValue) :=
  match json with
  | .string member => some (ofMember type member)
  | .int _ =>
    (json.int64?.filter fun value => (type.memberOf? value).isSome).map fun value => .ok ⟨type, value⟩
  | _ => none

/-- A single value of a type that is neither nullable nor an object type; none if the data has
another form. -/
def Scalar.ofJson? (type : Ty) (json : Json) : Option (Except SchemaFault Scalar) :=
  match type with
  | .bool => json.bool?.map (.ok <| .bool ·)
  | .int => json.int64?.map (.ok <| .int ·)
  | .float => json.number?.map (.ok <| .float ·)
  | .string => json.string?.map (.ok <| .string ·)
  | .datetime =>
    (json.string?.bind fun text => Calendar.readMoment? text.toList).map (.ok <| .datetime ·)
  | .timespan =>
    (json.string?.bind fun text => Calendar.Duration.read? text.toList).map (.ok <| .timespan ·)
  | .guid => (json.string?.bind fun text => Guid.read? text.toList).map (.ok <| .guid ·)
  | .enum type => (EnumValue.ofJson? type json).map (·.map .enum)
  | _ => none

def Scalar.ofJson (type : Ty) (json : Json) : Except SchemaFault Scalar :=
  if json.isNull then .ok .null
  else (Scalar.ofJson? type.underlying json).getD (.error (.unreadable type.text json.text))

mutual
/-- A record from an object, whose entries are set in their order; every key must be a field. -/
def Record.ofJson (type : ObjectType) : Json → Except SchemaFault Record
  | .object entries => do
    let draft ← setEntries (RecordDraft.empty type) entries
    draft.build
  | _ => .error (.noObject type.name)

def setEntries (draft : RecordDraft) : List (String × Json) → Except SchemaFault RecordDraft
  | [] => .ok draft
  | entry :: rest => do
    let draft ← setEntry draft entry
    setEntries draft rest

def setEntry (draft : RecordDraft) : String × Json → Except SchemaFault RecordDraft
  | (key, json) =>
    match draft.type.field? key with
    | none => .error (.unknownField draft.type.name key)
    | some (_, field) => do
      let value ← Except.mapError (.inField key) <|
        match field.type.underlying with
        | .object nested =>
          if json.isNull then .ok .null else (Record.ofJson nested json).map .object
        | _ => (Scalar.ofJson field.type json).map .scalar
      draft.set key value
end

end Proviso
