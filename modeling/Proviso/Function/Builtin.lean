import Proviso.Function.Builtin.Classifiers
import Proviso.Function.Builtin.Dates
import Proviso.Function.Builtin.Numbers
import Proviso.Function.Builtin.Texts
import Proviso.Function.Library

/-!
The functions that every condition can call unless its host takes them away.
-/

namespace Proviso

namespace Builtin

def guidOf : FunctionBody := fun arguments => do
  match ← Argument.string "Guid" arguments 0 with
  | none => pure .null
  | some text =>
    match Guid.read? (Text.trim text.toList) with
    | some guid => pure (.guid guid)
    | none => throw (.noGuid text)

def guid : Function :=
  .ofBody "Guid" [.string] (.nullable .guid) guidOf

end Builtin

def Library.standard : Library :=
  ⟨Builtin.dateFunctions ++ Builtin.textFunctions ++ Builtin.classifiers ++
    Builtin.numberFunctions ++ [Builtin.guid]⟩

end Proviso
