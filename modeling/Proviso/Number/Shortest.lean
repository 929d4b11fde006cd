import Proviso.Number.Decimal

/-!
The shortest decimal that reads back as a given binary number. A finite double is
`significand * 2 ^ exponent`; the reals that round to it form an interval around it, which
contains its ends exactly when the significand is even. Among the decimals in the interval the
ones with fewest digits are taken, and of these the nearest.
-/

namespace Proviso.Number

/-- A positive binary number together with the place where its lower neighbour is only half
as far away as its upper one. -/
structure Binary where
  significand : Nat
  exponent : Int
  atPowerOfTwo : Bool

structure Decimal where
  digits : Nat
  exponent : Int
  deriving DecidableEq

inductive Tie where
  | up
  | even

namespace Binary

/-- Quarters of the last binary place make every end of the interval a whole number. -/
def quarters (number : Binary) : Nat :=
  4 * number.significand

def lowerQuarters (number : Binary) : Nat :=
  if number.atPowerOfTwo then 4 * number.significand - 1 else 4 * number.significand - 2

def upperQuarters (number : Binary) : Nat :=
  4 * number.significand + 2

def scaled (number : Binary) (place : Int) (digits quarters : Nat) : Nat × Nat :=
  let binaryPlace := number.exponent - 2
  (digits * 10 ^ place.toNat * 2 ^ (-binaryPlace).toNat,
    quarters * 2 ^ binaryPlace.toNat * 10 ^ (-place).toNat)

def admits (number : Binary) (place : Int) (digits : Nat) : Bool :=
  let lower := number.scaled place digits number.lowerQuarters
  let upper := number.scaled place digits number.upperQuarters
  if number.significand % 2 = 0 then lower.2 ≤ lower.1 && upper.1 ≤ upper.2
  else lower.2 < lower.1 && upper.1 < upper.2

def floorAt (number : Binary) (place : Int) : Nat :=
  let binaryPlace := number.exponent
  number.significand * 2 ^ binaryPlace.toNat * 10 ^ (-place).toNat /
    (2 ^ (-binaryPlace).toNat * 10 ^ place.toNat)

/-- Raises a guess of the decimal exponent while the number reaches the next power of ten. -/
def raiseExponent (number : Binary) : Nat → Int → Int
  | 0, guess => guess
  | steps + 1, guess =>
    if number.floorAt (guess + 1) = 0 then guess else raiseExponent number steps (guess + 1)

def decimalExponent (number : Binary) : Int :=
  let bits := (Nat.log2 number.significand : Int) + number.exponent
  number.raiseExponent 4 (bits * 30103 / 100000 - 2)

/-- The better of the two neighbours on the grid of `10 ^ place`, if one reads back. -/
def nearestAt (number : Binary) (tie : Tie) (place : Int) : Option Nat :=
  let below := number.floorAt place
  let above := below + 1
  match number.admits place below, number.admits place above with
  | false, false => none
  | true, false => some below
  | false, true => some above
  | true, true =>
    let middle := number.scaled place (2 * below + 1) (2 * number.quarters)
    if middle.2 < middle.1 then some below
    else if middle.1 < middle.2 then some above
    else match tie with
      | .up => some above
      | .even => some (if below % 2 = 0 then below else above)

def searchFrom (number : Binary) (tie : Tie) : Nat → Int → Decimal
  | 0, place => ⟨number.floorAt place, place⟩
  | grids + 1, place =>
    match number.nearestAt tie place with
    | some digits => ⟨digits, place⟩
    | none => searchFrom number tie grids (place - 1)

end Binary

def Decimal.normalize (number : Decimal) : Decimal :=
  go (number.digits + 1) number.digits number.exponent
where
  go : Nat → Nat → Int → Decimal
    | 0, digits, exponent => ⟨digits, exponent⟩
    | fuel + 1, digits, exponent =>
      if digits = 0 ∨ digits % 10 ≠ 0 then ⟨digits, exponent⟩
      else go fuel (digits / 10) (exponent + 1)

def shortest (tie : Tie) (number : Binary) : Decimal :=
  (number.searchFrom tie 17 number.decimalExponent).normalize

/-! ## Doubles -/

inductive Magnitude where
  | nan
  | infinite
  | zero
  | finite (number : Binary)

def isNegative (number : Float) : Bool :=
  number.toBits.toNat / 2 ^ 63 = 1

def magnitude (number : Float) : Magnitude :=
  let bits := number.toBits.toNat
  let exponent : Nat := bits / 2 ^ 52 % 2 ^ 11
  let fraction : Nat := bits % 2 ^ 52
  if exponent = 2 ^ 11 - 1 then
    if fraction = 0 then .infinite else .nan
  else if exponent = 0 then
    if fraction = 0 then .zero else .finite ⟨fraction, -1074, false⟩
  else .finite ⟨2 ^ 52 + fraction, (exponent : Int) - 1075, fraction = 0 && 1 < exponent⟩

example : shortest .even ⟨1, -1074, false⟩ = ⟨5, -324⟩ := by decide +kernel

example : shortest .even ⟨0x1999999999999a, -56, false⟩ = ⟨1, -1⟩ := by decide +kernel

end Proviso.Number
