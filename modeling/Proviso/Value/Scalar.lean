import Proviso.Calendar.Duration
import Proviso.Guid
import Proviso.Number.Notation
import Proviso.Schema.EnumType

/-!
Single values: everything that a condition computes with, records excepted.
-/

namespace Proviso

open Calendar (Moment Duration)

inductive Scalar where
  | null
  | bool (value : Bool)
  | int (value : Int64)
  | float (value : Float)
  | string (value : String)
  | datetime (value : Moment)
  | timespan (value : Duration)
  | guid (value : Guid)
  | enum (value : EnumValue)

namespace Scalar

/-- Equality of values of one kind; of numbers it is that of doubles, so that the value which
is no number differs from itself. -/
def agrees : Scalar → Scalar → Bool
  | .null, .null => true
  | .bool first, .bool second => first == second
  | .int first, .int second => first == second
  | .float first, .float second => first == second
  | .string first, .string second => first == second
  | .datetime first, .datetime second => first == second
  | .timespan first, .timespan second => first == second
  | .guid first, .guid second => first == second
  | .enum first, .enum second => first.agrees second
  | _, _ => false

def kind : Scalar → String
  | .null => "null"
  | .bool _ => "bool"
  | .int _ => "int"
  | .float _ => "float"
  | .string _ => "string"
  | .datetime _ => "datetime"
  | .timespan _ => "timespan"
  | .guid _ => "guid"
  | .enum _ => "enum"

def text : Scalar → String
  | .null => ""
  | .bool value => if value then "true" else "false"
  | .int value => Number.text value.toInt
  | .float value => Number.floatText value
  | .string value => value
  | .datetime value => value.text
  | .timespan value => value.text
  | .guid value => value.text
  | .enum value => (value.type.memberOf? value.value).getD (Number.text value.value.toInt)

end Scalar

end Proviso
