/-!
The six relations that a condition can state between two values.
-/

namespace Proviso

inductive Relation where
  | equal
  | notEqual
  | greater
  | greaterOrEqual
  | less
  | lessOrEqual
  deriving DecidableEq

namespace Relation

def text : Relation → String
  | .equal => "=="
  | .notEqual => "!="
  | .greater => ">"
  | .greaterOrEqual => ">="
  | .less => "<"
  | .lessOrEqual => "<="

def ofText? (text : String) : Option Relation :=
  if text = "==" then some .equal
  else if text = "!=" then some .notEqual
  else if text = ">" then some .greater
  else if text = ">=" then some .greaterOrEqual
  else if text = "<" then some .less
  else if text = "<=" then some .lessOrEqual
  else none

def isOrdering : Relation → Bool
  | .equal => false
  | .notEqual => false
  | _ => true

def converse : Relation → Relation
  | .equal => .equal
  | .notEqual => .notEqual
  | .greater => .less
  | .greaterOrEqual => .lessOrEqual
  | .less => .greater
  | .lessOrEqual => .greaterOrEqual

@[simp] theorem converse_converse (relation : Relation) : relation.converse.converse = relation := by
  cases relation <;> rfl

@[simp] theorem isOrdering_converse (relation : Relation) :
    relation.converse.isOrdering = relation.isOrdering := by
  cases relation <;> rfl

theorem ofText?_text (relation : Relation) : ofText? relation.text = some relation := by
  cases relation <;> decide

end Relation

end Proviso
