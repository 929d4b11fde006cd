import Proviso.Text.CodeRanges

/-!
White space: the characters with the property White_Space of the Unicode Standard, and the
trimming of a text at both ends.
-/

namespace Proviso.Text

def blankRanges : CodeRanges :=
  [(0x9, 0xD), (0x20, 0x20), (0x85, 0x85), (0xA0, 0xA0), (0x1680, 0x1680), (0x2000, 0x200A),
   (0x2028, 0x2029), (0x202F, 0x202F), (0x205F, 0x205F), (0x3000, 0x3000)]

def isBlank (char : Char) : Bool :=
  blankRanges.contains char

example : blankRanges.Ascending := by decide

example : "\t\n\r \u0085\u00a0\u3000".toList.all isBlank = true := by decide

/-! ## Trimming -/

def trimStart (text : List Char) : List Char :=
  text.dropWhile isBlank

def trimEnd (text : List Char) : List Char :=
  (text.reverse.dropWhile isBlank).reverse

def trim (text : List Char) : List Char :=
  trimEnd (trimStart text)

def blank (text : List Char) : Bool :=
  text.all isBlank

end Proviso.Text
