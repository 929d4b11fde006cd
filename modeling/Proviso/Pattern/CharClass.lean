import Proviso.Text.Blank
import Proviso.Writing.Digit
import Proviso.Writing.Folding
import Proviso.Writing.Word

/-!
Classes of characters in patterns, built from ranges by set operations and by closing a set
under differences of letter case.
-/

namespace Proviso

inductive CharClass where
  | ranges (codes : Text.CodeRanges)
  | complement (inner : CharClass)
  | union (first second : CharClass)
  | intersection (first second : CharClass)
  | difference (first second : CharClass)
  | symmetricDifference (first second : CharClass)
  | caseless (inner : CharClass)
  | caselessAscii (inner : CharClass)
  deriving DecidableEq

namespace CharClass

/-- The ASCII letters that differ from the code in case only, the code included. -/
def asciiOrbit (code : Nat) : List Nat :=
  if 0x41 ≤ code ∧ code ≤ 0x5A then [code, code + 0x20]
  else if 0x61 ≤ code ∧ code ≤ 0x7A then [code, code - 0x20]
  else [code]

def holds : CharClass → Nat → Bool
  | .ranges codes, code => codes.holds code
  | .complement inner, code => !inner.holds code
  | .union first second, code => first.holds code || second.holds code
  | .intersection first second, code => first.holds code && second.holds code
  | .difference first second, code => first.holds code && !second.holds code
  | .symmetricDifference first second, code => first.holds code != second.holds code
  | .caseless inner, code => (Text.caseOrbit code).any fun other => inner.holds other
  | .caselessAscii inner, code => (asciiOrbit code).any fun other => inner.holds other

def contains (set : CharClass) (char : Char) : Bool :=
  set.holds char.toNat

/-! ## Ranges -/

/-- The members of a class as ascending ranges, none of which touch. -/
def codes : CharClass → Text.CodeRanges
  | .ranges codes => codes
  | .complement inner => inner.codes.complement
  | .union first second => first.codes.union second.codes
  | .intersection first second => first.codes.intersection second.codes
  | .difference first second => first.codes.difference second.codes
  | .symmetricDifference first second =>
    (first.codes.union second.codes).difference (first.codes.intersection second.codes)
  | .caseless inner =>
    let codes := inner.codes
    codes.union (.ofCodes ((Text.casedCodes.filter codes.holds).flatMap Text.caseOrbit))
  | .caselessAscii inner =>
    let codes := inner.codes
    codes.union (.ofCodes (((List.range 0x80).filter codes.holds).flatMap asciiOrbit))

def plain (set : CharClass) : CharClass :=
  .ranges set.codes

def single? (set : CharClass) : Option Nat :=
  match set.codes with
  | [(first, last)] => if first = last then some first else none
  | _ => none

def none : CharClass :=
  .ranges []

def any : CharClass :=
  .ranges [(0, 0x10FFFF)]

def single (char : Char) : CharClass :=
  .ranges [(char.toNat, char.toNat)]

def range (first last : Char) : CharClass :=
  .ranges [(first.toNat, last.toNat)]

def blank : CharClass :=
  .ranges Text.blankRanges

def digit : CharClass :=
  .ranges Text.digitRanges

def word : CharClass :=
  .ranges Text.wordRanges

def asciiDigit : CharClass :=
  .ranges [(0x30, 0x39)]

def asciiBlank : CharClass :=
  .ranges [(0x09, 0x0D), (0x20, 0x20)]

def asciiWord : CharClass :=
  .ranges [(0x30, 0x39), (0x41, 0x5A), (0x5F, 0x5F), (0x61, 0x7A)]

@[simp] theorem contains_single (char other : Char) :
    (single char).contains other = (char == other) := by
  by_cases equal : char = other
  · subst equal
    simp [single, contains, holds, Text.CodeRanges.holds]
  · have distinct : char.toNat ≠ other.toNat := fun same =>
      equal (Char.ext (UInt32.toNat_inj.1 same))
    have unequal : (char == other) = false := by simp [equal]
    rw [unequal]
    simp only [single, contains, holds, Text.CodeRanges.holds]
    split
    · rfl
    · split
      · omega
      · rfl

@[simp] theorem contains_blank (char : Char) : blank.contains char = Text.isBlank char := rfl

@[simp] theorem contains_digit (char : Char) : digit.contains char = Text.isDigit char := rfl

@[simp] theorem contains_word (char : Char) : word.contains char = Text.isWord char := rfl

end CharClass

end Proviso
