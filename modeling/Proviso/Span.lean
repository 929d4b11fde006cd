import Proviso.Number.Decimal
import Proviso.Text.Offset

/-!
A span is the stretch of a condition's text that a token, an expression or an error covers,
given by two byte positions. Positions are 32-bit words: conditions are short, and a position
beyond the word is reduced to it.
-/

namespace Proviso

structure Span where
  start : UInt32
  stop : UInt32
  deriving DecidableEq, Inhabited

namespace Span

def ofNat (start stop : Nat) : Span :=
  ⟨UInt32.ofNat start, UInt32.ofNat stop⟩

def point (position : Nat) : Span :=
  ofNat position position

def zero : Span :=
  point 0

def length (span : Span) : Nat :=
  span.stop.toNat - span.start.toNat

def isEmpty (span : Span) : Bool :=
  span.stop.toNat ≤ span.start.toNat

def merge (first second : Span) : Span where
  start := if first.start ≤ second.start then first.start else second.start
  stop := if first.stop ≤ second.stop then second.stop else first.stop

/-- The text under the span, empty if the span cuts a character or leaves the text. -/
def slice (span : Span) (source : List Char) : List Char :=
  (Text.slice? source span.start.toNat span.stop.toNat).getD []

/-- The number, from one, of the character at which the span starts; inside a character,
bytes are counted instead. -/
def column (span : Span) (source : List Char) : Nat :=
  let start := min span.start.toNat (Text.byteLength source)
  match Text.takeBytes? source start with
  | some before => before.length + 1
  | none => start + 1

@[simp] theorem start_ofNat (start stop : Nat) :
    (ofNat start stop).start.toNat = start % 2 ^ 32 := by
  simp [ofNat]

@[simp] theorem stop_ofNat (start stop : Nat) :
    (ofNat start stop).stop.toNat = stop % 2 ^ 32 := by
  simp [ofNat]

@[simp] theorem start_merge (first second : Span) :
    (first.merge second).start.toNat = min first.start.toNat second.start.toNat := by
  simp only [merge, UInt32.le_iff_toNat_le]
  split <;> omega

@[simp] theorem stop_merge (first second : Span) :
    (first.merge second).stop.toNat = max first.stop.toNat second.stop.toNat := by
  simp only [merge, UInt32.le_iff_toNat_le]
  split <;> omega

end Span

end Proviso
