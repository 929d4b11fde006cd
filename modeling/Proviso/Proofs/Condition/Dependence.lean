import Proviso.Proofs.Compiler.Run
import Proviso.Proofs.Condition.References
import Proviso.Proofs.Condition.Soundness

/-!
What the judgement of a condition depends on. The references of a condition list every property
that occurs in it, and the evaluation reads nothing else of a record: two records that agree on
these properties are judged alike, after the same calls, if the functions that are called depend
on their arguments alone.
-/

namespace Proviso

/-! ## Two evaluations -/

def Function.IsPure (function : Function) : Prop :=
  ∀ moment later arguments, function.body moment arguments = function.body later arguments

namespace Evaluation

/-- Two evaluations that come to the same at any time, if the first calls only pure functions. -/
def Agrees {α : Type} (evaluation other : Evaluation α) : Prop :=
  ∀ before otherBefore, (∀ call ∈ (evaluation before).calls, call.function.IsPure) →
    evaluation before = other otherBefore

variable {α β : Type}

theorem agrees_ofOutcome (outcome : Except EvaluationFault α) :
    (ofOutcome outcome).Agrees (ofOutcome outcome) :=
  fun _ _ _ => rfl

theorem Agrees.andThen {evaluation other : Evaluation α} {next onward : α → Evaluation β}
    (first : evaluation.Agrees other) (second : ∀ value, (next value).Agrees (onward value)) :
    (evaluation.andThen next).Agrees (other.andThen onward) := by
  intro before otherBefore pure
  cases outcome : (evaluation before).outcome with
  | error fault =>
    rw [andThen_of_error outcome] at pure ⊢
    have same := first before otherBefore pure
    rw [andThen_of_error (same ▸ outcome), same]
  | ok value =>
    rw [andThen_of_ok outcome] at pure ⊢
    have same := first before otherBefore fun call member =>
      pure call (List.mem_append_left _ member)
    have later := second value _ (otherBefore + (evaluation before).calls.length) fun call member =>
      pure call (List.mem_append_right _ member)
    rw [andThen_of_ok (same ▸ outcome), ← same, later]

theorem Agrees.map {evaluation other : Evaluation α} (same : evaluation.Agrees other)
    (change : α → β) : (evaluation.map change).Agrees (other.map change) := by
  intro before otherBefore pure
  simp only [Evaluation.map]
  rw [same before otherBefore pure]

theorem agrees_call (clock otherClock : Clock) (function : Function) (arguments : List Value) :
    (call clock function arguments).Agrees (call otherClock function arguments) := by
  intro before otherBefore pure
  have isPure : function.IsPure := pure ⟨function, function.passed arguments⟩ (by simp [call])
  have sameAnswer : function.invoke (clock.moment before) arguments =
      function.invoke (otherClock.moment otherBefore) arguments := isPure _ _ _
  simp only [call, answer, sameAnswer]

end Evaluation

namespace Node

open Evaluation

variable {schema : Schema} {scope : Scope} {setting other : Setting}

theorem agrees_test {node : Node} (same : (node.value setting).Agrees (node.value other)) :
    (test setting node).Agrees (test other node) := by
  refine same.andThen fun value => ?_
  unfold expectBool
  split <;> exact agrees_ofOutcome _

theorem agrees_values {arguments : List Expr}
    (same : ∀ argument ∈ arguments,
      ((ofExpr argument).value setting).Agrees ((ofExpr argument).value other)) :
    (values setting (ofExprs arguments)).Agrees (values other (ofExprs arguments)) := by
  induction arguments with
  | nil => exact agrees_ofOutcome _
  | cons first rest induction =>
    rw [List.forall_mem_cons] at same
    exact same.1.andThen fun value => (induction same.2).map _

theorem agrees_compare (sameCase : setting.caseSensitive = other.caseSensitive)
    (relation : Relation) (dependent target : Value) :
    (compare setting relation dependent target).Agrees
      (compare other relation dependent target) := by
  unfold compare
  rw [sameCase]
  exact agrees_ofOutcome _

theorem agrees_value (setting other : Setting) (built : setting.record.Built schema)
    (otherBuilt : other.record.Built schema)
    (ofContext : setting.record.type = scope.context)
    (otherOfContext : other.record.type = scope.context)
    (sameCase : setting.caseSensitive = other.caseSensitive) {expr : Expr}
    (checked : expr.Checked scope)
    (sameFields : ∀ path, Expr.Mention path expr.parts →
      setting.record.at? (Text.segments path) = other.record.at? (Text.segments path)) :
    ((ofExpr expr).value setting).Agrees ((ofExpr expr).value other) := by
  induction checked with
  | literal | constant => exact agrees_ofOutcome _
  | @property path slots type span found =>
    rcases built.read_of_resolve (ofContext ▸ found) with ⟨value, named, atSlots, _⟩
    rcases otherBuilt.read_of_resolve (otherOfContext ▸ found) with
      ⟨otherValue, otherNamed, otherAtSlots, _⟩
    have sameValue : some value = some otherValue := by
      rw [← named, ← otherNamed]
      exact sameFields path ⟨slots, type, span, Expr.mem_parts_self _⟩
    rcases Option.some.inj sameValue with rfl
    rw [ofExpr, Node.value, Node.value, Record.atSlots_of_checkedSlots? atSlots,
      Record.atSlots_of_checkedSlots? otherAtSlots]
    exact agrees_ofOutcome _
  | call _ _ induction =>
    refine (agrees_values fun argument isArgument => ?_).andThen
      fun values => agrees_call _ _ _ values
    exact induction argument isArgument fun path mentioned =>
      sameFields path (Expr.mention_call.mpr (Expr.mention_partsOf isArgument mentioned))
  | not _ _ induction =>
    exact (agrees_test (induction fun path mentioned =>
      sameFields path (Expr.mention_not.mpr mentioned))).map _
  | and _ _ _ _ leftInduction rightInduction =>
    have leftSame := leftInduction fun path mentioned =>
      sameFields path (Expr.mention_and.mpr (.inl mentioned))
    have rightSame := rightInduction fun path mentioned =>
      sameFields path (Expr.mention_and.mpr (.inr mentioned))
    refine (agrees_test leftSame).andThen fun holds => ?_
    split
    · exact (agrees_test rightSame).map _
    · exact agrees_ofOutcome _
  | or _ _ _ _ leftInduction rightInduction =>
    have leftSame := leftInduction fun path mentioned =>
      sameFields path (Expr.mention_or.mpr (.inl mentioned))
    have rightSame := rightInduction fun path mentioned =>
      sameFields path (Expr.mention_or.mpr (.inr mentioned))
    refine (agrees_test leftSame).andThen fun holds => ?_
    split
    · exact agrees_ofOutcome _
    · exact (agrees_test rightSame).map _
  | relational _ _ _ leftInduction rightInduction =>
    have leftSame := leftInduction fun path mentioned =>
      sameFields path (Expr.mention_relational.mpr (.inl mentioned))
    have rightSame := rightInduction fun path mentioned =>
      sameFields path (Expr.mention_relational.mpr (.inr mentioned))
    exact leftSame.andThen fun dependent => rightSame.andThen fun target =>
      agrees_compare sameCase _ dependent target

end Node

/-- A compiled condition judges two records alike that have the same values at the paths of its
references: with the same result or the same fault, after the same calls with the same
arguments, at whatever times, if the functions that are called for the first record depend on
their arguments alone. -/
theorem Compiler.Reached.evaluate_eq_of_references {schema : Schema} {compiler : Compiler}
    (reached : compiler.Reached schema) {context : ObjectType} (known : context ∈ schema.types)
    {source : String} {compiled : Compiled}
    (accepted : (compiler.compile context source).1 = .ok compiled) {record other : Record}
    (built : record.Built schema) (otherBuilt : other.Built schema)
    (ofContext : record.type = context) (otherOfContext : other.type = context)
    (sameFields : ∀ path ∈ compiled.references.fields.map (·.1),
      record.at? (Text.segments path) = other.at? (Text.segments path))
    (clock otherClock : Clock)
    (pure : ∀ call ∈ (compiled.predicate.evaluate clock record).calls, call.function.IsPure) :
    compiled.predicate.evaluate clock record = compiled.predicate.evaluate otherClock other := by
  rcases reached.readAs known accepted with ⟨expr, readAs⟩
  rcases readAs.read with ⟨lexer, scope, tokens, rfl, _, read⟩
  have checked := (Expr.checked_of_ofTokens read).1
  rw [readAs.predicate_eq, Predicate.evaluate_ofExpr ofContext] at pure ⊢
  rw [Predicate.evaluate_ofExpr otherOfContext]
  let setting : Setting := ⟨record, clock, compiled.predicate.caseSensitive⟩
  let otherSetting : Setting := ⟨other, otherClock, compiled.predicate.caseSensitive⟩
  have same : ((Node.ofExpr expr).value setting).Agrees ((Node.ofExpr expr).value otherSetting) :=
    Node.agrees_value setting otherSetting built otherBuilt ofContext otherOfContext rfl checked
      fun path mentioned =>
        sameFields path ((References.mem_paths_ofExpr readAs.references_eq).mpr mentioned)
  exact Node.agrees_test same 0 0 pure

/-- Two persons of one age and of one name, only one of whom has an address. -/
theorem Compiler.evaluate_eq_homeless :
    ∃ compiled, (ofLengths.compile .person "Length(Name)<=Age").1 = .ok compiled ∧
      (compiled.predicate.evaluate (.stopped (.midnight ⟨2024, 1, 1, by decide⟩))
        (.homeless 20 "Ada")).calls.length = 1 ∧
      compiled.predicate.evaluate (.stopped (.midnight ⟨2024, 1, 1, by decide⟩))
          (.homeless 20 "Ada") =
        compiled.predicate.evaluate (.stopped (.midnight ⟨2025, 1, 1, by decide⟩))
          (.housed 20 "Ada" "Rome") := by
  have accepts : (ofLengths.compile .person "Length(Name)<=Age").1.toOption.any (fun compiled =>
      compiled.references.paths == ["Name", "Age"] &&
        (compiled.predicate.evaluate (.stopped (.midnight ⟨2024, 1, 1, by decide⟩))
          (.homeless 20 "Ada")).calls.length == 1) = true := by
    decide +kernel
  rcases Outcome.exists_eq_ok_of_any accepts with ⟨compiled, accepted, checked⟩
  rw [Bool.and_eq_true, beq_iff_eq, beq_iff_eq] at checked
  refine ⟨compiled, accepted, checked.2, Reached.evaluate_eq_of_references
    reached_ofLengths (List.mem_cons_self ..) accepted
    (Record.built_homeless 20 "Ada") (Record.built_housed 20 "Ada" "Rome") rfl rfl ?_ _ _ ?_⟩
  · rw [← References.paths, checked.1]
    simp only [List.forall_mem_cons]
    exact ⟨rfl, rfl, List.forall_mem_nil _⟩
  · have current : ofLengths.IsCurrent .person "Length(Name)<=Age" := isCurrent_of_empty rfl
    rcases current.exists_compileFresh accepted with ⟨_, fresh, succeeds, same⟩
    have samePredicate : fresh.predicate = compiled.predicate := congrArg (·.2.1) same
    have ofPerson : (Record.homeless 20 "Ada").type = .person := rfl
    intro call member
    rw [← samePredicate] at member
    have isLength := List.mem_singleton.mp (mem_functions_of_compileFresh succeeds ofPerson _ call
      member)
    rw [isLength]
    exact fun _ _ _ => rfl

end Proviso
