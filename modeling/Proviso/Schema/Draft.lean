import Proviso.Value.Basic

/-!
The definition of an object type before it is checked. Field names are neither empty nor
dotted, and no name is given twice, among the constants as well; constants are single values.
-/

namespace Proviso

structure ObjectTypeDraft where
  name : String
  fields : List Field := []
  constants : List (String × Value) := []

namespace ObjectTypeDraft

def addField (draft : ObjectTypeDraft) (field : Field) : ObjectTypeDraft :=
  { draft with fields := draft.fields ++ [field] }

def addConstant (draft : ObjectTypeDraft) (name : String) (value : Value) : ObjectTypeDraft :=
  { draft with constants := draft.constants ++ [(name, value)] }

def checkFields (typeName : String) (before : List String) : List Field → Except SchemaFault Unit
  | [] => .ok ()
  | field :: rest =>
    if field.name.isEmpty || field.name.toList.contains '.' then
      .error (.invalidFieldName typeName field.name)
    else if before.contains field.name then .error (.repeatedField typeName field.name)
    else checkFields typeName (field.name :: before) rest

def checkConstants (typeName : String) (fields before : List String) :
    List (String × Value) → Except SchemaFault (List (String × Scalar))
  | [] => .ok []
  | (name, value) :: rest =>
    if fields.contains name then .error (.constantNamedLikeField name typeName)
    else
      match value with
      | .object _ => .error (.constantNotScalar name)
      | .scalar scalar =>
        if before.contains name then .error (.repeatedConstant typeName name)
        else (checkConstants typeName fields (name :: before) rest).map ((name, scalar) :: ·)

def build (draft : ObjectTypeDraft) (id : Nat) : Except SchemaFault ObjectType := do
  checkFields draft.name [] draft.fields
  let constants ← checkConstants draft.name (draft.fields.map (·.name)) [] draft.constants
  pure ⟨id, draft.name, draft.fields, constants⟩

end ObjectTypeDraft

end Proviso
