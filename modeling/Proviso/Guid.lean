/-!
Globally unique identifiers: thirty-two hexadecimal digits, written in five groups.
-/

namespace Proviso

structure Guid where
  digits : List (Fin 16)
  length_digits : digits.length = 32
  deriving DecidableEq

namespace Guid

def hexChar (digit : Fin 16) : Char :=
  Nat.digitChar digit.val

def hexDigit? (char : Char) : Option (Fin 16) :=
  if '0' ≤ char ∧ char ≤ '9' then some (Fin.ofNat 16 (char.toNat - '0'.toNat))
  else if 'a' ≤ char ∧ char ≤ 'f' then some (Fin.ofNat 16 (char.toNat - 'a'.toNat + 10))
  else if 'A' ≤ char ∧ char ≤ 'F' then some (Fin.ofNat 16 (char.toNat - 'A'.toNat + 10))
  else none

def ofDigits? (digits : List (Fin 16)) : Option Guid :=
  if length : digits.length = 32 then some ⟨digits, length⟩ else none

/-! ## Writing -/

def groupLengths : List Nat := [8, 4, 4, 4, 12]

def grouped (chars : List Char) : List Nat → List Char
  | [] => []
  | [length] => chars.take length
  | length :: next :: rest =>
    chars.take length ++ '-' :: grouped (chars.drop length) (next :: rest)

def text (guid : Guid) : String :=
  String.ofList (grouped (guid.digits.map hexChar) groupLengths)

/-! ## Reading -/

def readPlain? (text : List Char) : Option Guid :=
  (text.mapM hexDigit?).bind ofDigits?

def ungroup? : List Nat → List Char → Option (List Char)
  | [], [] => some []
  | [], _ :: _ => none
  | [length], text => if text.length = length then some text else none
  | length :: next :: rest, text =>
    match text.drop length with
    | '-' :: after => (ungroup? (next :: rest) after).map (text.take length ++ ·)
    | _ => none

def readGrouped? (text : List Char) : Option Guid :=
  (ungroup? groupLengths text).bind readPlain?

def uriStart : List Char := "urn:uuid:".toList

def isUri (text : List Char) : Bool :=
  uriStart.isPrefixOf (text.map Char.toLower)

/-- Digits alone, or in groups, and groups also in braces or behind the URI scheme. -/
def read? (text : List Char) : Option Guid :=
  match text with
  | '\x7b' :: rest =>
    if rest.getLast? = some '\x7d' then readGrouped? rest.dropLast else none
  | _ =>
    if text.length = 32 then readPlain? text
    else if isUri text then readGrouped? (text.drop uriStart.length)
    else readGrouped? text

end Guid

end Proviso
