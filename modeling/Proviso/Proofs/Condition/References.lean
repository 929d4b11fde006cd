import Proviso.Expr.References
import Proviso.Proofs.Condition.Checked

/-!
The references of an expression are those of its parts, one after the other: they list every
property and every constant that occurs in it. They are refused only if some property lies on the
way to some constant, or the other way round.
-/

namespace Proviso

namespace Expr

def Mention (path : String) (exprs : List Expr) : Prop :=
  ∃ slots type span, .property path slots type span ∈ exprs

def Names (name : String) (exprs : List Expr) : Prop :=
  ∃ value span, .constant name value span ∈ exprs

@[simp] theorem mention_append {path : String} {first second : List Expr} :
    Mention path (first ++ second) ↔ Mention path first ∨ Mention path second := by
  simp only [Mention, List.mem_append, exists_or]

section

variable {path : String} {left right : Expr} {span : Span}

@[simp] theorem mention_call {function : Function} {arguments : List Expr} :
    Mention path (Expr.call function arguments span).parts ↔
      Mention path (partsOf arguments) := by
  simp [Mention, parts]

@[simp] theorem mention_not :
    Mention path (Expr.not left span).parts ↔ Mention path left.parts := by
  simp [Mention, parts]

@[simp] theorem mention_and :
    Mention path (Expr.and left right).parts ↔
      Mention path left.parts ∨ Mention path right.parts := by
  rw [← mention_append]
  simp [Mention, parts]

@[simp] theorem mention_or :
    Mention path (Expr.or left right).parts ↔
      Mention path left.parts ∨ Mention path right.parts := by
  rw [← mention_append]
  simp [Mention, parts]

@[simp] theorem mention_relational {relation : Relation} {type : Ty} :
    Mention path (Expr.relational relation left right type).parts ↔
      Mention path left.parts ∨ Mention path right.parts := by
  rw [← mention_append]
  simp [Mention, parts]

@[simp] theorem names_relational {name : String} {relation : Relation} {type : Ty} :
    Names name (Expr.relational relation left right type).parts ↔
      Names name left.parts ∨ Names name right.parts := by
  simp [Names, parts, exists_or]

theorem mention_partsOf {argument : Expr} {arguments : List Expr}
    (isArgument : argument ∈ arguments) (mentioned : Mention path argument.parts) :
    Mention path (partsOf arguments) := by
  rcases mentioned with ⟨slots, type, span, member⟩
  rw [partsOf_eq_flatMap]
  exact ⟨slots, type, span, List.mem_flatMap.mpr ⟨argument, isArgument, member⟩⟩

end

end Expr

namespace References

def paths (references : References) : List String :=
  references.fields.map (·.1)

def names (references : References) : List String :=
  references.constants.map (·.1)

def addPart (references : References) : Expr → References
  | .property path _ type _ => references.addField path type.family
  | .constant name value _ => references.addConstant name value
  | _ => references

mutual
/-- What an expression refers to is what its parts refer to, in their order. -/
theorem addExpr_eq_foldl (references : References) : (expr : Expr) →
    references.addExpr expr = expr.parts.foldl addPart references
  | .literal _ _ | .property _ _ _ _ | .constant _ _ _ => rfl
  | .call _ arguments _ => addExprs_eq_foldl references arguments
  | .not operand _ => addExpr_eq_foldl references operand
  | .and left right | .or left right | .relational _ left right _ => by
    rw [addExpr, addExpr_eq_foldl references left, addExpr_eq_foldl _ right, ← List.foldl_append]
    rfl

theorem addExprs_eq_foldl (references : References) : (exprs : List Expr) →
    addExprs references exprs = (Expr.partsOf exprs).foldl addPart references
  | [] => rfl
  | expr :: rest => by
    rw [addExprs, addExpr_eq_foldl references expr, addExprs_eq_foldl _ rest, ← List.foldl_append]
    rfl
end

theorem mem_addNew {α : Type} {entries : List (String × α)} {name other : String} {value : α} :
    other ∈ (addNew entries name value).map (·.1) ↔ other ∈ entries.map (·.1) ∨ other = name := by
  unfold addNew
  split
  case isTrue known =>
    have present : name ∈ entries.map (·.1) := by simpa using known
    constructor
    · exact .inl
    · rintro (member | rfl)
      · exact member
      · exact present
  case isFalse => simp

theorem mem_paths_addPart {references : References} {path : String} (part : Expr) :
    path ∈ (references.addPart part).paths ↔
      path ∈ references.paths ∨ ∃ slots type span, part = .property path slots type span := by
  cases part with
  | property => simp [addPart, addField, paths, mem_addNew, eq_comm]
  | _ => simp [addPart, addConstant, paths]

theorem mem_names_addPart {references : References} {name : String} (part : Expr) :
    name ∈ (references.addPart part).names ↔
      name ∈ references.names ∨ ∃ value span, part = .constant name value span := by
  cases part with
  | constant => simp [addPart, addConstant, names, mem_addNew, eq_comm]
  | _ => simp [addPart, addField, names]

theorem mem_paths_foldl {references : References} {path : String} (parts : List Expr) :
    path ∈ (parts.foldl addPart references).paths ↔
      path ∈ references.paths ∨ Expr.Mention path parts := by
  induction parts generalizing references with
  | nil => simp [Expr.Mention]
  | cons part rest induction =>
    simp only [List.foldl_cons, induction, mem_paths_addPart, Expr.Mention, List.mem_cons, or_assoc,
      exists_or, eq_comm]

theorem mem_names_foldl {references : References} {name : String} (parts : List Expr) :
    name ∈ (parts.foldl addPart references).names ↔
      name ∈ references.names ∨ Expr.Names name parts := by
  induction parts generalizing references with
  | nil => simp [Expr.Names]
  | cons part rest induction =>
    simp only [List.foldl_cons, induction, mem_names_addPart, Expr.Names, List.mem_cons, or_assoc,
      exists_or, eq_comm]

theorem ofExpr_eq_ok {expr : Expr} {references : References} :
    ofExpr expr = .ok references ↔
      references = expr.parts.foldl addPart empty ∧
        collision? references.paths references.names = none := by
  rw [ofExpr, addExpr_eq_foldl]
  split
  case h_1 fault collides =>
    constructor
    · exact nofun
    · rintro ⟨rfl, apart⟩
      rw [paths, names, collides] at apart
      cases apart
  case h_2 apart =>
    constructor
    · rintro ⟨rfl⟩
      exact ⟨rfl, apart⟩
    · rintro ⟨rfl, _⟩
      rfl

theorem mem_paths_ofExpr {expr : Expr} {references : References}
    (referred : ofExpr expr = .ok references) {path : String} :
    path ∈ references.paths ↔ Expr.Mention path expr.parts := by
  rw [(ofExpr_eq_ok.mp referred).1, mem_paths_foldl]
  simp [empty, paths]

theorem collision?_eq_none_iff {fields constants : List String} :
    collision? fields constants = none ↔ ∀ field ∈ fields, ∀ constant ∈ constants,
      sharedSegment? 0 (Text.segments field) (Text.segments constant) = none := by
  simp only [collision?, collisionOf?, List.findSome?_eq_none_iff, Option.map_eq_none_iff]

theorem exists_ofExpr_iff {expr : Expr} :
    (∃ references, ofExpr expr = .ok references) ↔
      ∀ path name, Expr.Mention path expr.parts → Expr.Names name expr.parts →
        sharedSegment? 0 (Text.segments path) (Text.segments name) = none := by
  simp only [ofExpr_eq_ok, exists_eq_left, collision?_eq_none_iff, mem_paths_foldl, mem_names_foldl]
  simp only [empty, paths, names, List.map_nil, List.not_mem_nil, false_or]
  exact ⟨fun apart path name mentioned named => apart path mentioned name named,
    fun apart path mentioned name named => apart path name mentioned named⟩

theorem exists_ofExpr_converse {relation other : Relation} {left right : Expr}
    {type otherType : Ty} :
    (∃ references, ofExpr (.relational relation left right type) = .ok references) ↔
      ∃ references, ofExpr (.relational other right left otherType) = .ok references := by
  simp only [exists_ofExpr_iff, Expr.mention_relational, Expr.names_relational,
    or_comm (a := Expr.Mention _ left.parts), or_comm (a := Expr.Names _ left.parts)]

end References

end Proviso
