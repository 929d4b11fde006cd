import Proviso.Json.Basic
import Proviso.Number.Notation

/-!
JSON text in its compact form: no white space, control characters, quotes and backslashes
escaped, every other character as it is.
-/

namespace Proviso.Json

def escapeChar (char : Char) : List Char :=
  if char = '"' then ['\\', '"']
  else if char = '\\' then ['\\', '\\']
  else if char = '\x08' then ['\\', 'b']
  else if char = '\x0c' then ['\\', 'f']
  else if char = '\n' then ['\\', 'n']
  else if char = '\r' then ['\\', 'r']
  else if char = '\t' then ['\\', 't']
  else if char.toNat < 0x20 then
    ['\\', 'u', '0', '0', Nat.digitChar (char.toNat / 16), Nat.digitChar (char.toNat % 16)]
  else [char]

def quoted (text : String) : List Char :=
  '"' :: text.toList.flatMap escapeChar ++ ['"']

mutual
def written : Json → List Char
  | .null => "null".toList
  | .bool value => if value then "true".toList else "false".toList
  | .int value => Number.signedDecimal value
  | .float value => (Number.floatJson? value).getD "null".toList
  | .string value => quoted value
  | .array items => '[' :: writtenItems items ++ [']']
  | .object entries => '\x7b' :: writtenEntries entries ++ ['\x7d']

def writtenItems : List Json → List Char
  | [] => []
  | [item] => item.written
  | item :: next :: rest => item.written ++ ',' :: writtenItems (next :: rest)

def writtenEntries : List (String × Json) → List Char
  | [] => []
  | [(key, value)] => quoted key ++ ':' :: value.written
  | (key, value) :: next :: rest =>
    quoted key ++ ':' :: value.written ++ ',' :: writtenEntries (next :: rest)
end

def text (json : Json) : String :=
  String.ofList json.written

end Proviso.Json
