/-!
Whole numbers in decimal digits: writing, padding to a width, and reading with an optional
sign. Only the ten ASCII digits are read.
-/

-- Powers of numbers are the ones of the core library, also where algebra brings others.
attribute [instance (20000), default_instance 20000] instPowNat

namespace Proviso.Number

/-! ## Writing -/

def decimal (number : Nat) : List Char :=
  Nat.toDigits 10 number

def signedDecimal (number : Int) : List Char :=
  if number < 0 then '-' :: decimal number.natAbs else decimal number.natAbs

def paddedDecimal (width number : Nat) : List Char :=
  let digits := decimal number
  List.replicate (width - digits.length) '0' ++ digits

def text (number : Int) : String :=
  String.ofList (signedDecimal number)

/-! ## Reading -/

def digitValue? (char : Char) : Option Nat :=
  if '0' ≤ char ∧ char ≤ '9' then some (char.toNat - '0'.toNat) else none

def isAsciiDigit (char : Char) : Bool :=
  (digitValue? char).isSome

/-- Reads digits behind the digits already read; fails on any other character. -/
def readDigitsAfter (value : Nat) : List Char → Option Nat
  | [] => some value
  | char :: rest =>
    match digitValue? char with
    | some digit => readDigitsAfter (value * 10 + digit) rest
    | none => none

def readNat? : List Char → Option Nat
  | [] => none
  | digits => readDigitsAfter 0 digits

def readInt? : List Char → Option Int
  | '-' :: digits => (readNat? digits).map fun number => -(number : Int)
  | '+' :: digits => (readNat? digits).map fun number => (number : Int)
  | digits => (readNat? digits).map fun number => (number : Int)

/-- The value of a digit sequence, for texts known to hold digits only. -/
def digitsValue (digits : List Char) : Nat :=
  digits.foldl (fun value char => value * 10 + (char.toNat - '0'.toNat)) 0

/-! ## Words of 64 bits -/

def int64? (number : Int) : Option Int64 :=
  if -2 ^ 63 ≤ number ∧ number < 2 ^ 63 then some (Int64.ofInt number) else none

def readInt64? (text : List Char) : Option Int64 :=
  (readInt? text).bind int64?

theorem toInt_int64? {number : Int} {word : Int64} (fits : int64? number = some word) :
    word.toInt = number := by
  simp only [int64?] at fits
  split at fits
  · next range =>
    injection fits with equal
    rw [← equal, Int64.toInt_ofInt_of_le (by simpa using range.1) (by simpa using range.2)]
  · contradiction

end Proviso.Number
