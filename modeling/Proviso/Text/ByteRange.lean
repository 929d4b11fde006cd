import Proviso.Text.CodeRanges

/-!
Characters as bytes. In UTF-8 a character is a first byte, which tells how many follow, and up to
three bytes of six bits each. The characters of a range are therefore those of a few sequences of
ranges of bytes.
-/

namespace Proviso.Text

structure ByteRange where
  first : Nat
  last : Nat
  deriving DecidableEq

namespace ByteRange

/-- Codes written with a first byte of the given mark and a number of bytes behind it. -/
structure Form where
  first : Nat
  last : Nat
  mark : Nat
  following : Nat

def forms : List Form :=
  [⟨0, 0x7F, 0, 0⟩, ⟨0x80, 0x7FF, 0xC0, 1⟩, ⟨0x800, 0xD7FF, 0xE0, 2⟩, ⟨0xE000, 0xFFFF, 0xE0, 2⟩,
   ⟨0x10000, 0x10FFFF, 0xF0, 3⟩]

/-- The numbers from `first` to `last` as sequences of ranges of digits, each digit but the first
below 64. -/
def digits : Nat → Nat → Nat → List (List ByteRange)
  | 0, first, last => [[⟨first, last⟩]]
  | count + 1, first, last =>
    let unit := 64 ^ (count + 1)
    let behind (digit first last : Nat) := (digits count first last).map (⟨digit, digit⟩ :: ·)
    let full (digit stop : Nat) :=
      if digit < stop then [⟨digit, stop - 1⟩ :: List.replicate (count + 1) ⟨0, 63⟩] else []
    let (start, low) := (first / unit, first % unit)
    let (stop, high) := (last / unit, last % unit)
    if start = stop then behind start low high
    else
      let opening := if low = 0 then [] else behind start low (unit - 1)
      let closing := if high = unit - 1 then [] else behind stop 0 high
      opening ++
        full (if low = 0 then start else start + 1) (if high = unit - 1 then stop + 1 else stop) ++
        closing

def marked (mark : Nat) : List ByteRange → List ByteRange
  | [] => []
  | lead :: rest =>
    ⟨mark + lead.first, mark + lead.last⟩ :: rest.map fun range =>
      ⟨0x80 + range.first, 0x80 + range.last⟩

def sequences (first last : Nat) : List (List ByteRange) :=
  forms.flatMap fun form =>
    let first := max first form.first
    let last := min last form.last
    if first ≤ last then (digits form.following first last).map (marked form.mark) else []

end ByteRange

def bytesOf (code : Nat) : List Nat :=
  (ByteRange.sequences code code).flatMap fun bytes => bytes.map (·.first)

end Proviso.Text
