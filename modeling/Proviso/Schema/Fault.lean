import Proviso.Text.Segments

/-!
What can be wrong with the definition of a type or with the making of a record.
-/

namespace Proviso

inductive SchemaFault where
  | repeatedMember (enumName member : String)
  | invalidFieldName (typeName field : String)
  | repeatedField (typeName field : String)
  | constantNamedLikeField (constant typeName : String)
  | constantNotScalar (constant : String)
  | repeatedConstant (typeName constant : String)
  | unknownMember (enumName member : String)
  | noObject (typeName : String)
  | unknownField (typeName field : String)
  | unreadable (expected json : String)
  | inField (field : String) (inner : SchemaFault)
  | unfitValue (typeName field expected given : String)
  | missingField (typeName field : String)
  | stated (message : String)
  deriving DecidableEq

def SchemaFault.message : SchemaFault → String
  | .repeatedMember enumName member => s!"enum '{enumName}' declares member '{member}' twice"
  | .invalidFieldName typeName field => s!"type '{typeName}' has invalid field name '{field}'"
  | .repeatedField typeName field => s!"type '{typeName}' declares field '{field}' twice"
  | .constantNamedLikeField constant typeName =>
    s!"constant '{constant}' clashes with a field of type '{typeName}'"
  | .constantNotScalar constant => s!"constant '{constant}' must be a scalar value"
  | .repeatedConstant typeName constant =>
    s!"type '{typeName}' declares constant '{constant}' twice"
  | .unknownMember enumName member => s!"enum '{enumName}' has no member '{member}'"
  | .noObject typeName => s!"expected a JSON object for type '{typeName}'"
  | .unknownField typeName field => s!"type '{typeName}' has no field '{field}'"
  | .unreadable expected json => s!"cannot read {expected} from JSON value {json}"
  | .inField field inner => s!"field '{field}': {inner.message}"
  | .unfitValue typeName field expected given =>
    s!"field '{typeName}.{field}' of type {expected} cannot hold a {given} value"
  | .missingField typeName field => s!"required field '{typeName}.{field}' is not set"
  | .stated message => message

end Proviso
