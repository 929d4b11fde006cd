import Proviso.Value.Basic

/-!
Signatures of functions, and what it costs to call one with arguments of given types. An
argument may have to become nullable, to be read as a nullable text, or to be widened; calls
that need less of this fit better.
-/

namespace Proviso

structure Signature where
  parameters : List Ty
  rest : Option Ty
  returns : Ty

namespace Signature

def fixed (parameters : List Ty) (returns : Ty) : Signature :=
  ⟨parameters, none, returns⟩

def parameterAt? (signature : Signature) (index : Nat) : Option Ty :=
  match signature.parameters[index]? with
  | some type => some type
  | none => signature.rest

def listAgrees : List Ty → List Ty → Bool
  | [], [] => true
  | first :: rest, second :: others => first.agrees second && listAgrees rest others
  | _, _ => false

def restAgrees : Option Ty → Option Ty → Bool
  | none, none => true
  | some first, some second => first.agrees second
  | _, _ => false

def sameParameters (first second : Signature) : Bool :=
  listAgrees first.parameters second.parameters && restAgrees first.rest second.rest

/-! ## Costs -/

def isString : Ty → Bool
  | .string => true
  | _ => false

/-- The cost of passing an argument of one type as a parameter of another, if it can be. Null
may come in for a nullable parameter, and for a text even where the parameter is not. -/
def conversionCost (parameter argument : Ty) : Option Nat :=
  if parameter.agrees argument then some 0
  else
    match argument with
    | .null => if parameter.isNullable || isString parameter then some 1 else none
    | _ =>
      if parameter.isNullable || !argument.isNullable || isString parameter.underlying then
        if parameter.underlying.agrees argument.underlying then some 1
        else
          match parameter.underlying, argument.underlying with
          | .float, .int => some 2
          | _, _ => none
      else none

def costFrom (signature : Signature) (index : Nat) : List Ty → Option Nat
  | [] => some 0
  | argument :: rest => do
    let parameter ← signature.parameterAt? index
    let cost ← conversionCost parameter argument
    let others ← costFrom signature (index + 1) rest
    some (cost + others)

/-- The cost of a call, if the signature accepts the arguments; an exact fit costs nothing. -/
def matchCost (signature : Signature) (arguments : List Ty) : Option Nat :=
  if arguments.length < signature.parameters.length then none
  else if signature.rest.isNone && arguments.length ≠ signature.parameters.length then none
  else signature.costFrom 0 arguments

/-! ## Writing -/

def text (signature : Signature) : String :=
  let parameters := signature.parameters.map (·.text)
  let rest := signature.rest.toList.map fun type => type.text ++ "..."
  let taken := Text.joined ", " (parameters ++ rest)
  s!"({taken}) -> {signature.returns.text}"

end Signature

end Proviso
