import Proviso.Compiler.Basic
import Proviso.Text.Literal

/-!
The parts of a compiler as their developers see them: the name of a structure and its fields
with their values, and two points where more is not shown.
-/

namespace Proviso.Inspection

def fields (name : String) (entries : List (String × String)) : String :=
  let shown := entries.map fun (field, value) => field ++ ": " ++ value
  name ++ " \x7b " ++ Text.joined ", " shown ++ " \x7d"

/-- A structure of which some fields are not shown. -/
def someFields (name : String) (entries : List (String × String)) : String :=
  let shown := entries.map fun (field, value) => field ++ ": " ++ value
  name ++ " \x7b " ++ Text.joined ", " (shown ++ [".."]) ++ " \x7d"

def items (entries : List String) : String :=
  "[" ++ Text.joined ", " entries ++ "]"

def bool (value : Bool) : String :=
  if value then "true" else "false"

def member (entry : String × Int64) : String :=
  Text.literal entry.1 ++ ": " ++ Number.text entry.2.toInt

def enumType (type : EnumType) : String :=
  let members := "\x7b" ++ Text.joined ", " (type.members.map member) ++ "\x7d"
  fields "EnumType" [("name", Text.literal type.name), ("members", members)]

def type : Ty → String
  | .bool => "Bool"
  | .int => "Int"
  | .float => "Float"
  | .string => "String"
  | .datetime => "DateTime"
  | .timespan => "TimeSpan"
  | .guid => "Guid"
  | .enum type => "Enum(" ++ enumType type ++ ")"
  | .object type => "Object(" ++ someFields "ObjectType" [("name", Text.literal type.name)] ++ ")"
  | .nullable inner => "Nullable(" ++ type inner ++ ")"
  | .null => "Null"

def rest : Option Ty → String
  | some parameter => "Some(" ++ type parameter ++ ")"
  | none => "None"

def signature (signature : Signature) : String :=
  fields "Signature" [
    ("params", items (signature.parameters.map type)),
    ("variadic", rest signature.rest),
    ("returns", type signature.returns)]

def function (function : Function) : String :=
  someFields "Function" [
    ("name", Text.literal function.name), ("signature", signature function.signature)]

def functions (overloads : List Function) : String :=
  items (overloads.map function)

def library (library : Library) : String :=
  fields "Toolchain" [("functions", Number.text library.names.length)]

def config (config : Config) : String :=
  fields "CompilerConfig" [
    ("case_sensitive", bool config.caseSensitive),
    ("max_depth", Number.text config.maxDepth),
    ("max_expression_length", Number.text config.maxLength),
    ("cache_capacity", Number.text config.cacheCapacity)]

def compiler (compiler : Compiler) : String :=
  someFields "Compiler" [
    ("toolchain", library compiler.library),
    ("config", config compiler.config),
    ("enums", Number.text compiler.enums.length)]

def predicate (predicate : Predicate) : String :=
  someFields "Predicate" [
    ("context", Text.literal predicate.context.name),
    ("case_sensitive", bool predicate.caseSensitive)]

end Proviso.Inspection
