import Proviso.Fault.Basic
import Proviso.Text.Blank
import Proviso.Text.Order

/-!
Comparing a value, the dependent one, with a target. Equality takes null and blank texts for
the same empty value, and the wildcard as a target for anything that is not empty. Order is
defined among numbers, among moments and among texts; nothing is above or below null.
-/

namespace Proviso

/-- The text that, as a target, stands for any value that is not empty. -/
def wildcard : String := "*"

namespace Value

def isEmpty : Value → Bool
  | .null => true
  | .string text => Text.blank text.toList
  | _ => false

def isWildcard : Value → Bool
  | .string text => text == wildcard
  | _ => false

def isString : Value → Bool
  | .string _ => true
  | _ => false

/-! ## Equality -/

/-- Equality of values of which neither is empty. Whole numbers are compared exactly, and as
doubles only with doubles. -/
def sameContent (caseSensitive : Bool) (dependent target : Value) : Bool :=
  match dependent, target with
  | .string first, .string second =>
    Text.comparable caseSensitive first == Text.comparable caseSensitive second
  | .int first, .int second => first == second
  | first, second =>
    match first.number?, second.number? with
    | some first, some second => first == second
    | _, _ => first.agrees second

def equals (caseSensitive : Bool) (dependent target : Value) : Bool :=
  match dependent.isEmpty, target.isEmpty with
  | true, true => true
  | true, false => false
  | false, targetEmpty =>
    target.isWildcard || (!targetEmpty && sameContent caseSensitive dependent target)

/-! ## Order -/

def floatOrder (first second : Float) : Option Ordering :=
  if first < second then some .lt
  else if first == second then some .eq
  else if second < first then some .gt
  else none

/-- The target as the order sees it: a wildcard is a text only for texts, and otherwise stands
for no value. -/
def orderedTarget (dependent target : Value) : Value :=
  if target.isWildcard && !dependent.isString then .null else target

/-- The order of two values; none if one of them is null or no number. Fails if they cannot be
put in order. -/
def orderContent (caseSensitive : Bool) (dependent target : Value) :
    Except ComparisonFault (Option Ordering) :=
  match dependent, target with
  | .null, _ => .ok none
  | _, .null => .ok none
  | .int first, .int second => .ok (some (compare first.toInt second.toInt))
  | .datetime first, .datetime second => .ok (some (first.order second))
  | .string first, .string second =>
    .ok (some (Text.order (Text.comparable caseSensitive first)
      (Text.comparable caseSensitive second)))
  | first, second =>
    match first.number?, second.number? with
    | some first, some second => .ok (floatOrder first second)
    | _, _ => .error (.unordered first.kind second.kind)

def order (caseSensitive : Bool) (dependent target : Value) :
    Except ComparisonFault (Option Ordering) :=
  orderContent caseSensitive dependent (orderedTarget dependent target)

/-! ## Relations -/

/-- Whether a relation holds. Values that have no order are neither greater nor less, hence
both at least and at most each other. -/
def compare (relation : Relation) (caseSensitive : Bool) (dependent target : Value) :
    Except ComparisonFault Bool :=
  match relation with
  | .equal => .ok (equals caseSensitive dependent target)
  | .notEqual => .ok !(equals caseSensitive dependent target)
  | .greater => (order caseSensitive dependent target).map (· == some .gt)
  | .less => (order caseSensitive dependent target).map (· == some .lt)
  | .greaterOrEqual => (order caseSensitive dependent target).map (· != some .lt)
  | .lessOrEqual => (order caseSensitive dependent target).map (· != some .gt)

def compareText (relation : String) (caseSensitive : Bool) (dependent target : Value) :
    Except Fault Bool :=
  match Relation.ofText? relation with
  | some relation => (compare relation caseSensitive dependent target).mapError .comparison
  | none => .error (.relation relation)

end Value

end Proviso
