import Proviso.Fault.Basic

/-!
Functions that a condition can call. What a function answers may depend on its arguments and
on the moment of the call; a function that remembers earlier calls, or reads what changes,
answers differently at different moments.
-/

namespace Proviso

structure Function where
  name : String
  signature : Signature
  body : Calendar.Moment → List Value → Except Fault Value

namespace Function

/-- Arguments from an index on as the parameters take them: whole numbers are widened where
doubles are expected. -/
def passedFrom (signature : Signature) (index : Nat) : List Value → List Value
  | [] => []
  | argument :: rest =>
    let passed :=
      match signature.parameterAt? index with
      | some parameter => argument.widenTo parameter
      | none => argument
    passed :: passedFrom signature (index + 1) rest

def passed (function : Function) (arguments : List Value) : List Value :=
  passedFrom function.signature 0 arguments

def invoke (function : Function) (now : Calendar.Moment) (arguments : List Value) :
    Except Fault Value :=
  function.body now (function.passed arguments)

def text (function : Function) : String :=
  function.name ++ function.signature.text

end Function

/-! ## Arguments -/

abbrev FunctionBody := List Value → Except FunctionFault Value

def Function.ofBody (name : String) (parameters : List Ty) (returns : Ty) (body : FunctionBody) :
    Function where
  name := name
  signature := .fixed parameters returns
  body _ arguments := (body arguments).mapError fun cause => .evaluation (.function cause)

namespace Argument

def fault (function : String) (index : Nat) (expected : String) (arguments : List Value) :
    FunctionFault :=
  .argument function index expected ((arguments[index]?.map (·.kind)).getD "nothing")

def string (function : String) (arguments : List Value) (index : Nat) :
    Except FunctionFault (Option String) :=
  match arguments[index]? with
  | some (.string text) => .ok (some text)
  | some .null => .ok none
  | _ => .error (fault function index "string" arguments)

def int (function : String) (arguments : List Value) (index : Nat) : Except FunctionFault Int :=
  match arguments[index]? with
  | some (.int value) => .ok value.toInt
  | _ => .error (fault function index "int" arguments)

def number (function : String) (arguments : List Value) (index : Nat) :
    Except FunctionFault Float :=
  match arguments[index]?.bind Value.number? with
  | some value => .ok value
  | none => .error (fault function index "number" arguments)

end Argument

end Proviso
