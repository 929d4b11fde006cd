import Proviso.Function.Basic

/-!
Libraries: the functions that conditions can call, in the order in which they were registered.
Several functions may have one name if they take different parameters; a call means the one
that fits its arguments best, the earliest among equals.
-/

namespace Proviso

structure Library where
  functions : List Function

namespace Library

def empty : Library :=
  ⟨[]⟩

def overloads (library : Library) (name : String) : List Function :=
  library.functions.filter (·.name == name)

def contains (library : Library) (name : String) : Bool :=
  library.functions.any (·.name == name)

def register (library : Library) (function : Function) : Except Fault Library :=
  match (library.overloads function.name).find?
      (·.signature.sameParameters function.signature) with
  | some existing => .error (.registration function.name (.sameParameters existing.signature))
  | none => .ok ⟨library.functions ++ [function]⟩

/-! ## Names -/

def insertName (name : String) : List String → List String
  | [] => [name]
  | other :: rest =>
    if name < other then name :: other :: rest
    else if name = other then other :: rest
    else other :: insertName name rest

/-- Every name once, in ascending order. -/
def names (library : Library) : List String :=
  library.functions.foldl (fun names function => insertName function.name names) []

/-! ## Resolving calls -/

/-- The cheaper of the best function so far and a further one; the earlier one of equals. -/
def better (arguments : List Ty) (best : Option (Nat × Function)) (function : Function) :
    Option (Nat × Function) :=
  match function.signature.matchCost arguments, best with
  | none, best => best
  | some cost, none => some (cost, function)
  | some cost, some (least, chosen) =>
    if cost < least then some (cost, function) else some (least, chosen)

def resolve (library : Library) (name : String) (arguments : List Ty) : Option Function :=
  ((library.overloads name).foldl (better arguments) none).map Prod.snd

end Library

end Proviso
