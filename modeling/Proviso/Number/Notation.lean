import Proviso.Number.Shortest

/-!
Two ways to write a double from its shortest decimal: in conditions and messages always
positionally and without a needless point, in JSON with a point or an exponent.
-/

namespace Proviso.Number

/-! ## Placing the point -/

/-- The digits with the decimal point in its place, and without one when no digit follows it. -/
def positional (number : Decimal) : List Char :=
  let digits := decimal number.digits
  let whole := (digits.length : Int) + number.exponent
  if whole ≤ 0 then
    '0' :: '.' :: List.replicate (-whole).toNat '0' ++ digits
  else if digits.length ≤ whole.toNat then
    digits ++ List.replicate (whole.toNat - digits.length) '0'
  else digits.take whole.toNat ++ '.' :: digits.drop whole.toNat

def scientific (number : Decimal) : List Char :=
  let digits := decimal number.digits
  let exponent := (digits.length : Int) + number.exponent - 1
  let mantissa :=
    match digits with
    | [] => []
    | [digit] => [digit]
    | digit :: rest => digit :: '.' :: rest
  mantissa ++ 'e' :: (if exponent < 0 then '-' else '+') :: decimal exponent.natAbs

/-! ## The two styles -/

def signed (number : Float) (digits : List Char) : List Char :=
  if isNegative number then '-' :: digits else digits

/-- The text of a double in conditions: no exponent, no point in whole numbers, and of two
equally near shortest decimals the larger. -/
def floatText (number : Float) : String :=
  String.ofList <|
    match magnitude number with
    | .nan => "NaN".toList
    | .infinite => signed number "inf".toList
    | .zero => signed number ['0']
    | .finite binary => signed number (positional (shortest .up binary))

/-- JSON numbers show that they are not whole: a point is kept from `1e-5` up to `1e16`, and
an exponent is written beyond. There is no JSON number for a value that is not finite. -/
def floatJson? (number : Float) : Option (List Char) :=
  match magnitude number with
  | .nan => none
  | .infinite => none
  | .zero => some (signed number "0.0".toList)
  | .finite binary =>
    let decimal := shortest .even binary
    let leading := ((Number.decimal decimal.digits).length : Int) + decimal.exponent - 1
    let written :=
      if -5 ≤ leading ∧ leading < 16 then
        if 0 ≤ decimal.exponent then positional decimal ++ ".0".toList else positional decimal
      else scientific decimal
    some (signed number written)

example : positional ⟨12345, -2⟩ = "123.45".toList := by decide

example : positional ⟨5, -3⟩ = "0.005".toList := by decide

example : scientific ⟨12, 19⟩ = "1.2e+20".toList := by decide

end Proviso.Number
