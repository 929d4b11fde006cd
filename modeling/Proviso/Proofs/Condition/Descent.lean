import Proviso.Expr.References
import Proviso.Proofs.Condition.Chains

/-!
Going down an expression. What is done with conditions recurses over their trees, one level at a
time, so that the number of levels that it takes is the height of the tree. This is said by running
it with a number of levels: it has an answer, which is the same, if and only if there are enough.
-/

namespace Proviso

/-! ## Height -/

namespace Expr

mutual
def height : Expr → Nat
  | .literal _ _ => 1
  | .property _ _ _ _ => 1
  | .constant _ _ _ => 1
  | .call _ arguments _ => heights arguments + 1
  | .not operand _ => height operand + 1
  | .and left right => max (height left) (height right) + 1
  | .or left right => max (height left) (height right) + 1
  | .relational _ left right _ => max (height left) (height right) + 1

def heights : List Expr → Nat
  | [] => 0
  | expr :: rest => max (height expr) (heights rest)
end

theorem height_pos (expr : Expr) : 0 < expr.height := by
  cases expr <;> simp [height]

end Expr

/-! ## Descents -/

/-- What a function that goes down an expression does at each node, given what it came to for the
operands. -/
structure Descent (α : Type) where
  literal (value : Scalar) (span : Span) : α
  property (path : String) (slots : List Nat) (type : Ty) (span : Span) : α
  constant (name : String) (value : Scalar) (span : Span) : α
  call (function : Function) (arguments : List α) (span : Span) : α
  not (operand : α) (span : Span) : α
  and (left right : α) : α
  or (left right : α) : α
  relational (relation : Relation) (left right : α) (type : Ty) : α

namespace Descent

variable {α : Type}

def runWithin (descent : Descent α) : Nat → Expr → Option α
  | 0, _ => none
  | _ + 1, .literal value span => some (descent.literal value span)
  | _ + 1, .property path slots type span => some (descent.property path slots type span)
  | _ + 1, .constant name value span => some (descent.constant name value span)
  | levels + 1, .call function arguments span => do
    let arguments ← arguments.mapM (runWithin descent levels)
    return descent.call function arguments span
  | levels + 1, .not operand span => do
    let operand ← runWithin descent levels operand
    return descent.not operand span
  | levels + 1, .and left right => do
    let left ← runWithin descent levels left
    let right ← runWithin descent levels right
    return descent.and left right
  | levels + 1, .or left right => do
    let left ← runWithin descent levels left
    let right ← runWithin descent levels right
    return descent.or left right
  | levels + 1, .relational relation left right type => do
    let left ← runWithin descent levels left
    let right ← runWithin descent levels right
    return descent.relational relation left right type

structure Computes (descent : Descent α) (compute : Expr → α) : Prop where
  literal (value : Scalar) (span : Span) :
    compute (.literal value span) = descent.literal value span
  property (path : String) (slots : List Nat) (type : Ty) (span : Span) :
    compute (.property path slots type span) = descent.property path slots type span
  constant (name : String) (value : Scalar) (span : Span) :
    compute (.constant name value span) = descent.constant name value span
  call (function : Function) (arguments : List Expr) (span : Span) :
    compute (.call function arguments span) =
      descent.call function (arguments.map compute) span
  not (operand : Expr) (span : Span) :
    compute (.not operand span) = descent.not (compute operand) span
  and (left right : Expr) : compute (.and left right) = descent.and (compute left) (compute right)
  or (left right : Expr) : compute (.or left right) = descent.or (compute left) (compute right)
  relational (relation : Relation) (left right : Expr) (type : Ty) :
    compute (.relational relation left right type) =
      descent.relational relation (compute left) (compute right) type

theorem bind_within {β γ : Type} (first second levels : Nat) (left : α) (right : β)
    (join : α → β → γ) :
    ((if first ≤ levels then some left else none) >>= fun left =>
      (if second ≤ levels then some right else none) >>= fun right => pure (join left right)) =
    if max first second ≤ levels then some (join left right) else none := by
  simp only [Nat.max_le]
  by_cases enough : first ≤ levels <;> by_cases others : second ≤ levels <;>
    simp [enough, others]

theorem mapM_within {find : Expr → Option α} {compute : Expr → α} {levels : Nat}
    (each : ∀ expr, find expr = if expr.height ≤ levels then some (compute expr) else none)
    (exprs : List Expr) :
    exprs.mapM find = if Expr.heights exprs ≤ levels then some (exprs.map compute) else none := by
  induction exprs with
  | nil => rw [Expr.heights, if_pos (Nat.zero_le levels)]; rfl
  | cons expr rest induction =>
    rw [List.mapM_cons, each, induction, Expr.heights]
    exact bind_within expr.height _ levels _ _ List.cons

/-- With a number of levels the answer is the same if there are as many of them as the expression is
high, and there is none otherwise. -/
theorem Computes.runWithin_eq {descent : Descent α} {compute : Expr → α}
    (computes : descent.Computes compute) (levels : Nat) (expr : Expr) :
    descent.runWithin levels expr =
      if expr.height ≤ levels then some (compute expr) else none := by
  induction levels generalizing expr with
  | zero => rw [runWithin, if_neg (Nat.not_le.mpr expr.height_pos)]
  | succ levels induction =>
    cases expr with
    | literal value span => simp [runWithin, Expr.height, computes.literal]
    | property path slots type span => simp [runWithin, Expr.height, computes.property]
    | constant name value span => simp [runWithin, Expr.height, computes.constant]
    | call function arguments span =>
      rw [runWithin, mapM_within induction, computes.call, Expr.height]
      by_cases enough : Expr.heights arguments ≤ levels <;> simp [enough]
    | not operand span =>
      rw [runWithin, induction, computes.not, Expr.height]
      by_cases enough : operand.height ≤ levels <;> simp [enough]
    | and left right =>
      simp only [runWithin, induction, bind_within, computes.and, Expr.height,
        Nat.add_le_add_iff_right]
    | or left right =>
      simp only [runWithin, induction, bind_within, computes.or, Expr.height,
        Nat.add_le_add_iff_right]
    | relational relation left right type =>
      simp only [runWithin, induction, bind_within, computes.relational, Expr.height,
        Nat.add_le_add_iff_right]

/-! ## What is done with conditions -/

def lowering : Descent Node where
  literal value _ := .constant value
  property _ slots _ _ := .field slots
  constant _ value _ := .constant value
  call function arguments _ := .call function arguments
  not operand _ := .not operand
  and := .and
  or := .or
  relational relation left right _ := .relational relation left right

theorem lowering_computes : lowering.Computes Node.ofExpr where
  literal _ _ := rfl
  property _ _ _ _ := rfl
  constant _ _ _ := rfl
  call function arguments _ := congrArg (Node.call function) (Node.ofExprs_eq_map arguments)
  not _ _ := rfl
  and _ _ := rfl
  or _ _ := rfl
  relational _ _ _ _ := rfl

def writing : Descent String where
  literal value _ := Expr.literalText value
  property path _ _ _ := path
  constant name _ _ := name
  call function arguments _ := function.name ++ "(" ++ Text.joined ", " arguments ++ ")"
  not operand _ := "!" ++ operand
  and left right := "(" ++ left ++ " && " ++ right ++ ")"
  or left right := "(" ++ left ++ " || " ++ right ++ ")"
  relational relation left right _ := "(" ++ left ++ " " ++ relation.text ++ " " ++ right ++ ")"

theorem texts_eq (exprs : List Expr) : Expr.texts exprs = exprs.map Expr.text := by
  induction exprs with
  | nil => rfl
  | cons expr rest induction => rw [Expr.texts, induction, List.map_cons]

theorem writing_computes : writing.Computes Expr.text where
  literal _ _ := rfl
  property _ _ _ _ := rfl
  constant _ _ _ := rfl
  call function arguments _ := by
    rw [Expr.text, texts_eq]
    rfl
  not _ _ := rfl
  and _ _ := rfl
  or _ _ := rfl
  relational _ _ _ _ := rfl

def gathering : Descent (References → References) where
  literal _ _ references := references
  property path _ type _ references := references.addField path type.family
  constant name value _ references := references.addConstant name value
  call _ arguments _ references := arguments.foldl (fun references add => add references) references
  not operand _ := operand
  and left right references := right (left references)
  or left right references := right (left references)
  relational _ left right _ references := right (left references)

theorem addExprs_eq (references : References) (exprs : List Expr) :
    References.addExprs references exprs =
      (exprs.map fun expr references => References.addExpr references expr).foldl
        (fun references add => add references) references := by
  induction exprs generalizing references with
  | nil => rfl
  | cons expr rest induction =>
    rw [References.addExprs, induction]
    rfl

theorem gathering_computes :
    gathering.Computes fun expr references => References.addExpr references expr where
  literal _ _ := rfl
  property _ _ _ _ := rfl
  constant _ _ _ := rfl
  call _ arguments _ := funext fun references => addExprs_eq references arguments
  not _ _ := rfl
  and _ _ := rfl
  or _ _ := rfl
  relational _ _ _ _ := rfl

def allOf : List (Evaluation Value) → Evaluation (List Value)
  | [] => .done []
  | first :: rest => first.andThen fun value => (allOf rest).map fun others => value :: others

def evaluating (setting : Setting) : Descent (Evaluation Value) where
  literal value _ := .done (.scalar value)
  property _ slots _ _ := .done (setting.record.atSlots slots)
  constant _ value _ := .done (.scalar value)
  call function arguments _ :=
    (allOf arguments).andThen fun arguments => Evaluation.call setting.clock function arguments
  not operand _ := (operand.andThen Evaluation.expectBool).map fun operand => .bool !operand
  and left right :=
    (left.andThen Evaluation.expectBool).andThen fun holds =>
      if holds then (right.andThen Evaluation.expectBool).map .bool else .done (.bool false)
  or left right :=
    (left.andThen Evaluation.expectBool).andThen fun holds =>
      if holds then .done (.bool true) else (right.andThen Evaluation.expectBool).map .bool
  relational relation left right _ :=
    left.andThen fun dependent => right.andThen fun target =>
      Node.compare setting relation dependent target

theorem values_eq (setting : Setting) (exprs : List Expr) :
    Node.values setting (Node.ofExprs exprs) =
      allOf (exprs.map fun expr => (Node.ofExpr expr).value setting) := by
  induction exprs with
  | nil => rfl
  | cons expr rest induction =>
    rw [Node.ofExprs, Node.values, induction]
    rfl

theorem evaluating_computes (setting : Setting) :
    (evaluating setting).Computes fun expr => (Node.ofExpr expr).value setting where
  literal _ _ := rfl
  property _ _ _ _ := rfl
  constant _ _ _ := rfl
  call function arguments _ := by
    rw [Node.ofExpr, Node.value, values_eq]
    rfl
  not _ _ := rfl
  and _ _ := rfl
  or _ _ := rfl
  relational _ _ _ _ := rfl

end Descent

/-- That a number of levels is enough for what is done with a condition: to make it into a node, to
write it, to gather what it refers to, and to evaluate it. -/
structure Expr.DescendsWithin (expr : Expr) (levels : Nat) : Prop where
  lowering : Descent.lowering.runWithin levels expr = some (Node.ofExpr expr)
  writing : Descent.writing.runWithin levels expr = some expr.text
  gathering : Descent.gathering.runWithin levels expr =
    some fun references => references.addExpr expr
  evaluating (setting : Setting) :
    (Descent.evaluating setting).runWithin levels expr = some ((Node.ofExpr expr).value setting)

theorem Expr.descendsWithin_iff {expr : Expr} {levels : Nat} :
    expr.DescendsWithin levels ↔ expr.height ≤ levels := by
  constructor
  case mp =>
    intro descends
    have answered := descends.lowering
    rw [Descent.lowering_computes.runWithin_eq] at answered
    split at answered
    case isTrue enough => exact enough
    case isFalse => cases answered
  case mpr =>
    intro enough
    constructor
    case lowering => rw [Descent.lowering_computes.runWithin_eq, if_pos enough]
    case writing => rw [Descent.writing_computes.runWithin_eq, if_pos enough]
    case gathering => rw [Descent.gathering_computes.runWithin_eq, if_pos enough]
    case evaluating =>
      intro setting
      rw [(Descent.evaluating_computes setting).runWithin_eq, if_pos enough]

end Proviso
