import Proviso.Function.Basic

/-!
Functions over one or more numbers.
-/

namespace Proviso.Builtin

/-- The smaller number; the value that is no number counts only against itself. -/
def smaller (first second : Float) : Float :=
  if first != first then second else if second < first then second else first

def larger (first second : Float) : Float :=
  if first != first then second else if first < second then second else first

/-- Combines the numbers from an index on, `count` of them, with the result so far. -/
def foldFrom (name : String) (step : Float → Float → Float) (arguments : List Value) :
    Nat → Nat → Float → Except FunctionFault Float
  | 0, _, result => pure result
  | count + 1, index, result => do
    let number ← Argument.number name arguments index
    foldFrom name step arguments count (index + 1) (step result number)

def foldOf (name : String) (step : Float → Float → Float) (arguments : List Value) :
    Except FunctionFault Float := do
  let first ← Argument.number name arguments 0
  foldFrom name step arguments (arguments.length - 1) 1 first

def aggregate (name : String) (step : Float → Float → Float)
    (finish : Float → Nat → Float) : Function where
  name := name
  signature := ⟨[.float], some .float, .float⟩
  body _ arguments :=
    match foldOf name step arguments with
    | .ok result => .ok (.float (finish result arguments.length))
    | .error cause => .error (.evaluation (.function cause))

def minimum : Function := aggregate "Min" smaller fun result _ => result

def maximum : Function := aggregate "Max" larger fun result _ => result

def sum : Function := aggregate "Sum" (· + ·) fun result _ => result

def average : Function :=
  aggregate "Average" (· + ·) fun result count => result / Float.ofNat count

def numberFunctions : List Function :=
  [minimum, maximum, sum, average]

end Proviso.Builtin
