import Proviso.Number.Decimal

/-!
Reading a double from decimal text. A text that fits the form of a number is read as the
nearest double; beyond the range it is infinite, and below it zero.
-/

namespace Proviso.Number

structure DecimalText where
  whole : List Char
  fraction : List Char
  exponent : Int

/-- Exponents so large that no mantissa of the text could bring the value into range are cut
short before any power of ten is formed. -/
def DecimalText.toFloat (parts : DecimalText) : Float :=
  let mantissa := digitsValue (parts.whole ++ parts.fraction)
  let exponent := parts.exponent - parts.fraction.length
  let leading := ((parts.whole ++ parts.fraction).length : Int) + exponent
  if mantissa = 0 ∨ leading < -400 then 0.0
  else if exponent > 400 then 1.0 / 0.0
  else Float.ofScientific mantissa (exponent < 0) exponent.natAbs

def readExponent? : List Char → Option Int
  | mark :: rest =>
    if mark = 'e' ∨ mark = 'E' then readInt? rest else none
  | [] => none

/-- Digits with at most one point among or around them, and an optional exponent. -/
def readDecimalText? (text : List Char) : Option DecimalText :=
  let whole := text.takeWhile isAsciiDigit
  let (fraction, rest) :=
    match text.dropWhile isAsciiDigit with
    | '.' :: rest => (rest.takeWhile isAsciiDigit, rest.dropWhile isAsciiDigit)
    | rest => ([], rest)
  if whole.isEmpty && fraction.isEmpty then none
  else if rest.isEmpty then some ⟨whole, fraction, 0⟩
  else (readExponent? rest).map fun exponent => ⟨whole, fraction, exponent⟩

def lowerAscii (text : List Char) : List Char :=
  text.map Char.toLower

def readUnsignedFloat? (text : List Char) : Option Float :=
  if lowerAscii text = "inf".toList ∨ lowerAscii text = "infinity".toList then some (1.0 / 0.0)
  else if lowerAscii text = "nan".toList then some (0.0 / 0.0)
  else (readDecimalText? text).map DecimalText.toFloat

/-- The names of infinity and of the value that is no number are read in any case. -/
def readFloat? : List Char → Option Float
  | '-' :: rest => (readUnsignedFloat? rest).map fun number => -number
  | '+' :: rest => readUnsignedFloat? rest
  | text => readUnsignedFloat? text

end Proviso.Number
