import Proviso.Pattern.CharClass

/-!
Conditions on a place in a text that take no character: they look at the character before the
place and at the one after it.
-/

namespace Proviso

inductive Assertion where
  | textStart
  | textEnd
  | lineStart (carriageReturns : Bool)
  | lineEnd (carriageReturns : Bool)
  | wordBoundary (ascii : Bool)
  | noWordBoundary (ascii : Bool)
  | wordStart (ascii : Bool)
  | wordEnd (ascii : Bool)
  | noWordBefore (ascii : Bool)
  | noWordAfter (ascii : Bool)
  deriving DecidableEq

namespace Assertion

def isWordAt (ascii : Bool) (char : Option Char) : Bool :=
  match char with
  | some char => if ascii then CharClass.asciiWord.contains char else Text.isWord char
  | none => false

def holds (assertion : Assertion) (before after : Option Char) : Bool :=
  match assertion with
  | .textStart => before.isNone
  | .textEnd => after.isNone
  | .lineStart false => before.isNone || before == some '\n'
  | .lineStart true =>
    before.isNone || before == some '\n' || (before == some '\r' && after != some '\n')
  | .lineEnd false => after.isNone || after == some '\n'
  | .lineEnd true =>
    after.isNone || after == some '\r' || (after == some '\n' && before != some '\r')
  | .wordBoundary ascii => isWordAt ascii before != isWordAt ascii after
  | .noWordBoundary ascii => isWordAt ascii before == isWordAt ascii after
  | .wordStart ascii => !isWordAt ascii before && isWordAt ascii after
  | .wordEnd ascii => isWordAt ascii before && !isWordAt ascii after
  | .noWordBefore ascii => !isWordAt ascii before
  | .noWordAfter ascii => !isWordAt ascii after

/-- Whether the character before alone shows that the assertion holds. -/
def holdsBehind (assertion : Assertion) (before : Option Char) : Bool :=
  match assertion with
  | .textStart => before.isNone
  | .lineStart _ => before.isNone || before == some '\n'
  | .noWordBefore ascii => !isWordAt ascii before
  | _ => false

theorem holds_of_holdsBehind {assertion : Assertion} {before : Option Char}
    (known : assertion.holdsBehind before = true) (after : Option Char) :
    assertion.holds before after = true := by
  cases assertion with
  | lineStart carriageReturns =>
    cases carriageReturns with
    | false => exact known
    | true => simp_all [holdsBehind, holds]
  | textStart => exact known
  | noWordBefore ascii => exact known
  | _ => simp [holdsBehind] at known

def asksForWords : Assertion → Bool
  | .wordBoundary ascii | .noWordBoundary ascii | .wordStart ascii | .wordEnd ascii
  | .noWordBefore ascii | .noWordAfter ascii => !ascii
  | _ => false

end Assertion

end Proviso
