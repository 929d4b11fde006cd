import Proviso.Proofs.Condition.Soundness
import Proviso.Proofs.Function.Builtin

/-!
What compiled conditions call functions with. On a record that was built, every call gets as
many arguments as the signature of its function asks for, and arguments of the types of the
parameters. So the functions of this library never complain about them.
-/

namespace Proviso

open Evaluation

variable {schema : Schema}

theorem Node.conforms_value (setting : Setting) (built : setting.record.Built schema)
    {scope : Scope} (ofContext : setting.record.type = scope.context)
    (members : scope.context.ConstantsAreMembers) {expr : Expr} (checked : expr.Checked scope) :
    ((ofExpr expr).value setting).CallsOnly Call.Conforms := by
  induction checked with
  | literal | property | constant => exact callsOnly_ofOutcome _
  | @call _ function arguments _ checked resolved induction =>
    have sound := sound_values fun argument isArgument =>
      sound_value setting built ofContext (Scope.trusts_all members) (checked argument isArgument)
    rcases Library.matchCost_of_resolve resolved with ⟨cost, costs⟩
    refine (callsOnly_values induction).andThen fun values succeeds => ?_
    rcases succeeds with ⟨before, succeeds⟩
    have admitted := (sound.fits succeeds).imp fun _ _ admits => admits trivial
    exact callsOnly_call (Function.conforms_of_matchCost costs admitted) _
  | not _ _ induction => exact (callsOnly_test induction).map _
  | and _ _ _ _ leftInduction rightInduction =>
    refine (callsOnly_test leftInduction).andThen fun holds _ => ?_
    split
    · exact (callsOnly_test rightInduction).map _
    · exact callsOnly_ofOutcome _
  | or _ _ _ _ leftInduction rightInduction =>
    refine (callsOnly_test leftInduction).andThen fun holds _ => ?_
    split
    · exact callsOnly_ofOutcome _
    · exact (callsOnly_test rightInduction).map _
  | relational _ _ _ leftInduction rightInduction =>
    exact leftInduction.andThen fun _ _ => rightInduction.andThen fun _ _ => callsOnly_ofOutcome _

theorem Call.Fails.body_of_argument {call : Call} {moment : Calendar.Moment} {name : String}
    {index : Nat} {expected actual : String}
    (fails : call.Fails moment (.function (.argument name index expected actual))) :
    call.function.body moment call.arguments =
      .error (.evaluation (.function (.argument name index expected actual))) := by
  generalize isFault : EvaluationFault.function (.argument name index expected actual) = fault
    at fails
  cases fails with
  | @body cause failed =>
    cases cause with
    | evaluation cause => exact failed
    | _ => cases isFault
  | result => cases isFault

/-- What holds of the calls that a condition makes when it judges a record: their arguments are
those that their functions ask for, and no function of this library complains about one. -/
structure Compiled.CallsProperly (compiled : Compiled) (record : Record) (clock : Clock) :
    Prop where
  conforms : ∀ call ∈ (compiled.predicate.evaluate clock record).calls, call.Conforms
  guarded : ∀ call ∈ (compiled.predicate.evaluate clock record).calls,
    call.function ∈ Library.standard.functions → ∀ moment name index expected actual,
      call.function.body moment call.arguments ≠
        .error (.evaluation (.function (.argument name index expected actual)))
  accepts : (∀ call ∈ (compiled.predicate.evaluate clock record).calls,
      call.function ∈ Library.standard.functions) → ∀ name index expected actual,
    (compiled.predicate.evaluate clock record).outcome ≠
      .error (.function (.argument name index expected actual))

/-- A compiled condition calls functions with the arguments that they ask for. -/
theorem Compiler.Reached.callsProperly {compiler : Compiler} (reached : compiler.Reached schema)
    {context : ObjectType} (known : context ∈ schema.types)
    (members : context.ConstantsAreMembers) {source : String} {compiled : Compiled}
    (accepted : (compiler.compile context source).1 = .ok compiled) {record : Record}
    (built : record.Built schema) (ofContext : record.type = context) (clock : Clock) :
    compiled.CallsProperly record clock := by
  rcases reached.readAs known accepted with ⟨expr, readAs⟩
  rcases readAs.read with ⟨lexer, scope, tokens, rfl, _, read⟩
  rcases Expr.checked_of_ofTokens read with ⟨checked, isBool⟩
  let setting : Setting := ⟨record, clock, compiled.predicate.caseSensitive⟩
  have evaluated : compiled.predicate.evaluate clock record =
      Node.test setting (.ofExpr expr) 0 := by
    rw [readAs.predicate_eq, Predicate.evaluate_ofExpr ofContext]
  have conforms : ∀ call ∈ (compiled.predicate.evaluate clock record).calls, call.Conforms := by
    rw [evaluated]
    exact Node.callsOnly_test (Node.conforms_value setting built ofContext members checked) 0
  have guarded : ∀ call ∈ (compiled.predicate.evaluate clock record).calls,
      call.function ∈ Library.standard.functions → ∀ moment name index expected actual,
        call.function.body moment call.arguments ≠
          .error (.evaluation (.function (.argument name index expected actual))) :=
    fun call isCall isStandard =>
      Builtin.isGuarded_of_mem_standard isStandard call.arguments (conforms call isCall)
  refine ⟨conforms, guarded, fun standard name index expected actual fails => ?_⟩
  have trusts := Scope.trusts_all members
  have sound : (Node.test setting (.ofExpr expr)).Sound clock fun _ => True :=
    Node.sound_test trusts isBool (Node.sound_value setting built ofContext trusts checked)
  rw [evaluated] at fails
  rcases sound.blames fails with ⟨earlier, call, calls, blamed⟩
  have isCall : call ∈ (compiled.predicate.evaluate clock record).calls := by
    rw [evaluated, calls]
    exact List.mem_append_right _ (List.mem_singleton_self call)
  exact guarded call isCall (standard call isCall) _ name index expected actual
    blamed.body_of_argument

theorem Compiler.callsProperly_homeless :
    ∃ compiled, (ofLengths.compile .person "Length(Name)<=Age").1 = .ok compiled ∧
      (compiled.predicate.evaluate (.stopped (.midnight ⟨2024, 1, 1, by decide⟩))
        (.homeless 20 "Ada")).calls.length = 1 ∧
      compiled.CallsProperly (.homeless 20 "Ada")
        (.stopped (.midnight ⟨2024, 1, 1, by decide⟩)) := by
  let clock : Clock := .stopped (.midnight ⟨2024, 1, 1, by decide⟩)
  have accepts : (ofLengths.compile .person "Length(Name)<=Age").1.toOption.any (fun compiled =>
      (compiled.predicate.evaluate clock (.homeless 20 "Ada")).calls.length == 1) = true := by
    decide +kernel
  rcases Outcome.exists_eq_ok_of_any accepts with ⟨compiled, accepted, single⟩
  have members : ObjectType.person.ConstantsAreMembers := fun name value member => nomatch member
  exact ⟨compiled, accepted, beq_iff_eq.mp single,
    Reached.callsProperly reached_ofLengths (List.mem_cons_self ..) members accepted
      (Record.built_homeless 20 "Ada") rfl clock⟩

end Proviso
