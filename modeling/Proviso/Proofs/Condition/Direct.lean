import Proviso.Predicate.Basic
import Proviso.Proofs.Condition.Checked
import Proviso.Proofs.Record.Path

/-!
Conditions evaluated as they are written. Properties are looked up by their names, and the calls
are noted in the order in which they are made. A predicate reads slots instead and reports its
calls at the end; on records that were built both come to the same.
-/

namespace Proviso

/-! ## Evaluation by names -/

abbrev Noting := ExceptT EvaluationFault (StateM (List Call))

namespace Noting

/-- Calls a function; the call is noted whether or not it succeeds. -/
def call (clock : Clock) (function : Function) (arguments : List Value) : Noting Value := do
  let earlier ← get
  set (earlier ++ [(⟨function, function.passed arguments⟩ : Call)])
  match Evaluation.answer function (clock.moment earlier.length) arguments with
  | .ok value => pure value
  | .error fault => throw fault

def expectBool (value : Value) : Noting Bool :=
  match value with
  | .bool holds => pure holds
  | value => throw (.notBoolean value.kind)

def holds (computation : Noting Value) : Noting Bool := do
  let value ← computation
  expectBool value

end Noting

namespace Expr

def compareValues (setting : Setting) (relation : Relation) (dependent target : Value) :
    Noting Value :=
  match dependent.compare relation setting.caseSensitive target with
  | .ok holds => pure (.bool holds)
  | .error cause => throw (.comparisonFailed cause)

mutual
def evaluate (setting : Setting) : Expr → Noting Value
  | .literal value _ => pure (.scalar value)
  | .constant _ value _ => pure (.scalar value)
  | .property path _ _ _ =>
    match setting.record.at? (Text.segments path) with
    | some value => pure value
    | none => throw (.stated ("there is no " ++ path))
  | .call function arguments _ => do
    let values ← evaluateAll setting arguments
    Noting.call setting.clock function values
  | .not operand _ => do
    let holds ← (evaluate setting operand).holds
    pure (.bool !holds)
  | .and left right => do
    let leftHolds ← (evaluate setting left).holds
    if leftHolds then
      let rightHolds ← (evaluate setting right).holds
      pure (.bool rightHolds)
    else pure (.bool false)
  | .or left right => do
    let leftHolds ← (evaluate setting left).holds
    if leftHolds then pure (.bool true)
    else
      let rightHolds ← (evaluate setting right).holds
      pure (.bool rightHolds)
  | .relational relation left right _ => do
    let dependent ← evaluate setting left
    let target ← evaluate setting right
    compareValues setting relation dependent target

def evaluateAll (setting : Setting) : List Expr → Noting (List Value)
  | [] => pure []
  | expr :: rest => do
    let value ← evaluate setting expr
    let others ← evaluateAll setting rest
    pure (value :: others)
end

def judge (setting : Setting) (expr : Expr) : Run Bool :=
  let (outcome, calls) := (evaluate setting expr).holds.run.run []
  ⟨calls, outcome⟩

end Expr

/-! ## Evaluation by slots -/

namespace Noting

def Matches {α : Type} (computation : Noting α) (evaluation : Evaluation α) : Prop :=
  ∀ log, computation.run.run log =
    ((evaluation log.length).outcome, log ++ (evaluation log.length).calls)

variable {α β : Type}

theorem matches_pure (value : α) : Matches (pure value) (.done value) := by
  intro log
  rw [Evaluation.done, Evaluation.ofOutcome, List.append_nil]
  rfl

theorem matches_throw (fault : EvaluationFault) :
    Matches (throw fault : Noting α) (.ofOutcome (.error fault)) := by
  intro log
  rw [Evaluation.ofOutcome, List.append_nil]
  rfl

theorem Matches.bind {computation : Noting α} {next : α → Noting β} {evaluation : Evaluation α}
    {onward : α → Evaluation β} (first : computation.Matches evaluation)
    (second : ∀ value, (next value).Matches (onward value)) :
    (computation >>= next).Matches (evaluation.andThen onward) := by
  intro log
  rw [ExceptT.run_bind, StateT.run_bind, first log]
  cases outcome : (evaluation log.length).outcome with
  | error fault =>
    rw [Evaluation.andThen_of_error outcome]
    rfl
  | ok value =>
    rw [Evaluation.andThen_of_ok outcome]
    have later := second value (log ++ (evaluation log.length).calls)
    rw [List.length_append, List.append_assoc] at later
    exact later

theorem Matches.bind_pure {computation : Noting α} {evaluation : Evaluation α}
    (first : computation.Matches evaluation) (change : α → β) :
    (computation >>= fun value => pure (change value)).Matches (evaluation.map change) := by
  rw [Evaluation.map_eq_andThen]
  exact first.bind fun value => matches_pure (change value)

theorem matches_call (clock : Clock) (function : Function) (arguments : List Value) :
    (call clock function arguments).Matches (.call clock function arguments) := by
  intro log
  have noted : (call clock function arguments).run.run log =
      (match Evaluation.answer function (clock.moment log.length) arguments with
        | .ok value => (pure value : Noting Value)
        | .error fault => throw fault).run.run
      (log ++ [(⟨function, function.passed arguments⟩ : Call)]) := rfl
  rw [noted, Evaluation.call]
  cases Evaluation.answer function (clock.moment log.length) arguments <;> rfl

theorem matches_expectBool (value : Value) :
    (expectBool value).Matches (Evaluation.expectBool value) := by
  cases value with
  | object record => exact matches_throw _
  | scalar value => cases value <;> first | exact matches_pure _ | exact matches_throw _

end Noting

namespace Expr

open Noting

variable {schema : Schema} {scope : Scope} {setting : Setting}

theorem matches_compareValues (setting : Setting) (relation : Relation)
    (dependent target : Value) :
    (compareValues setting relation dependent target).Matches
      (Node.compare setting relation dependent target) := by
  unfold compareValues Node.compare
  cases dependent.compare relation setting.caseSensitive target with
  | ok holds => exact matches_pure _
  | error cause => exact matches_throw _

theorem matches_evaluateAll {arguments : List Expr}
    (each : ∀ argument ∈ arguments,
      (evaluate setting argument).Matches ((Node.ofExpr argument).value setting)) :
    (evaluateAll setting arguments).Matches (Node.values setting (Node.ofExprs arguments)) := by
  induction arguments with
  | nil => exact matches_pure []
  | cons first rest induction =>
    rw [List.forall_mem_cons] at each
    exact each.1.bind fun value => (induction each.2).bind_pure _

theorem matches_holds {expr : Expr}
    (same : (evaluate setting expr).Matches ((Node.ofExpr expr).value setting)) :
    (evaluate setting expr).holds.Matches (Node.test setting (.ofExpr expr)) :=
  same.bind matches_expectBool

theorem matches_evaluate (built : setting.record.Built schema)
    (ofContext : setting.record.type = scope.context) {expr : Expr} (checked : expr.Checked scope) :
    (evaluate setting expr).Matches ((Node.ofExpr expr).value setting) := by
  induction checked with
  | literal | constant => exact matches_pure _
  | property found =>
    rcases built.read_of_resolve (ofContext ▸ found) with ⟨value, named, checkedSlots, _⟩
    rw [evaluate, named, Node.ofExpr, Node.value, Record.atSlots_of_checkedSlots? checkedSlots]
    exact matches_pure value
  | call _ _ induction =>
    exact (matches_evaluateAll induction).bind fun values => matches_call _ _ values
  | not _ _ induction => exact (matches_holds induction).bind_pure _
  | and _ _ _ _ leftInduction rightInduction =>
    refine (matches_holds leftInduction).bind fun holds => ?_
    split
    · exact (matches_holds rightInduction).bind_pure _
    · exact matches_pure _
  | or _ _ _ _ leftInduction rightInduction =>
    refine (matches_holds leftInduction).bind fun holds => ?_
    split
    · exact matches_pure _
    · exact (matches_holds rightInduction).bind_pure _
  | relational _ _ _ leftInduction rightInduction =>
    exact leftInduction.bind fun dependent => rightInduction.bind fun target =>
      matches_compareValues setting _ dependent target

/-- The predicate of a condition that was read judges every record that was built for its context
type as the condition itself does: with the same result or the same fault, after the same calls
with the same arguments. -/
theorem evaluate_ofExpr_eq_judge {tokens : List Token} {expr : Expr}
    (read : Expr.ofTokens scope tokens = .ok expr) {record : Record} (built : record.Built schema)
    (ofContext : record.type = scope.context) (clock : Clock) (caseSensitive : Bool) :
    (Predicate.ofExpr scope.context caseSensitive expr).evaluate clock record =
      expr.judge ⟨record, clock, caseSensitive⟩ := by
  have checked := (checked_of_ofTokens read).1
  let setting : Setting := ⟨record, clock, caseSensitive⟩
  have same : (evaluate setting expr).Matches ((Node.ofExpr expr).value setting) :=
    matches_evaluate built ofContext checked
  rw [Predicate.evaluate_ofExpr ofContext, judge, matches_holds same []]
  rfl

end Expr

def Scope.people : Scope where
  context := .person
  library := ⟨[.ofBody "Limit" [] .int fun _ => .ok (.int 18)]⟩
  enums := []
  maxDepth := 2

/-- `Home.City == null && Limit() <= Age` -/
def Scope.peopleTokens : List Token :=
  [⟨.identifier "Home.City", .zero⟩, ⟨.relation .equal, .zero⟩, ⟨.null, .zero⟩, ⟨.and, .zero⟩,
    ⟨.functionOpen "Limit", .zero⟩, ⟨.rightParenthesis, .zero⟩, ⟨.relation .lessOrEqual, .zero⟩,
    ⟨.identifier "Age", .zero⟩]

theorem Expr.evaluate_eq_judge_homeless :
    ∃ expr, Expr.ofTokens .people Scope.peopleTokens = .ok expr ∧
      (Record.homeless 20 "Ada").Built .people ∧
      (Predicate.ofExpr Scope.people.context true expr).evaluate
          (.stopped (.midnight ⟨2024, 1, 1, by decide⟩)) (.homeless 20 "Ada") =
        expr.judge ⟨.homeless 20 "Ada", .stopped (.midnight ⟨2024, 1, 1, by decide⟩), true⟩ := by
  have accepted : ∃ expr, Expr.ofTokens .people Scope.peopleTokens = .ok expr := ⟨_, rfl⟩
  have built := Record.built_homeless 20 "Ada"
  rcases accepted with ⟨expr, read⟩
  exact ⟨expr, read, built, Expr.evaluate_ofExpr_eq_judge read built rfl _ true⟩

end Proviso
