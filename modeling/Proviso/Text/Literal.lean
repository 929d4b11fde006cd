import Proviso.Number.Decimal
import Proviso.Writing.Category
import Proviso.Writing.Property

/-!
Texts as quoted literals for the eyes of a developer: whatever cannot be seen, or joins the
character before it, is written by its code point.
-/

namespace Proviso.Text

/-- Whether a character leaves a mark of its own; of the blanks only the space counts. -/
def isPrintable (char : Char) : Bool :=
  char == ' ' ||
    match Category.of? char with
    | none => false
    | some .control => false
    | some .format => false
    | some .privateUse => false
    | some .spaceSeparator => false
    | some .lineSeparator => false
    | some .paragraphSeparator => false
    | some _ => true

def hexDigits (number : Nat) : List Char :=
  Nat.toDigits 16 number

def literalChar (char : Char) : List Char :=
  if char = '\x00' then ['\\', '0']
  else if char = '\t' then ['\\', 't']
  else if char = '\r' then ['\\', 'r']
  else if char = '\n' then ['\\', 'n']
  else if char = '"' then ['\\', '"']
  else if char = '\\' then ['\\', '\\']
  else if isPrintable char && !graphemeExtendRanges.contains char then [char]
  else ['\\', 'u', '\x7b'] ++ hexDigits char.toNat ++ ['\x7d']

def literal (text : String) : String :=
  String.ofList ('"' :: text.toList.flatMap literalChar ++ ['"'])

end Proviso.Text
