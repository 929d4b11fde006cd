import Mathlib.Data.List.Forall2
import Proviso.Proofs.Compiler.Reached
import Proviso.Proofs.Condition.Checked
import Proviso.Proofs.Function.Arguments
import Proviso.Proofs.Record.Path
import Proviso.Proofs.Schema.Agreement

/-!
Compiled conditions do not go wrong. On a record that was built, whatever occurs in a checked
expression evaluates to a value of its static type; where it does not, the last function that
was called is to blame, because it failed itself or answered outside the type it declares.
-/

namespace Proviso

/-! ## Constants -/

/-- Whether the constants of a type that belong to enumerations are members of them. -/
def ObjectType.ConstantsAreMembers (type : ObjectType) : Prop :=
  ∀ name value, (name, .enum value) ∈ type.constants →
    (value.type.memberOf? value.value).isSome = true

theorem Scope.member_of_enumMember? {scope : Scope} {path : String} {value : EnumValue}
    (found : scope.enumMember? path = some value) :
    (value.type.memberOf? value.value).isSome = true := by
  unfold enumMember? at found
  split at found
  case h_1 name member _ =>
    rcases List.exists_of_findSome?_eq_some found with ⟨type, _, named⟩
    rcases Option.map_eq_some_iff.mp named with ⟨number, hasValue, rfl⟩
    exact EnumType.memberOf?_of_valueOf? hasValue
  case h_2 => cases found

theorem Scalar.admits_type {value : Scalar}
    (isMember : ∀ member, value = .enum member →
      (member.type.memberOf? member.value).isSome = true) :
    value.type.admits (.scalar value) = true := by
  cases value with
  | enum member => simp [type, Ty.admits, isMember member rfl]
  | _ => rfl

theorem Scope.admits_constant? {scope : Scope} (members : scope.context.ConstantsAreMembers)
    {name : String} {value : Scalar} (found : scope.constant? name = some value) :
    value.type.admits (.scalar value) = true := by
  apply Scalar.admits_type
  rintro member rfl
  unfold constant? at found
  split at found
  case h_1 constant ofContext =>
    cases found
    rcases List.lookup_eq_some_iff.mp ofContext with ⟨before, after, constants, _⟩
    exact members name member (by simp [constants])
  case h_2 =>
    rcases Option.map_eq_some_iff.mp found with ⟨other, ofEnum, equal⟩
    cases equal
    exact member_of_enumMember? ofEnum

/-- A set of types whose constants in a scope belong to them. It has all types that decide
whether something goes wrong. -/
structure Scope.Trusts (scope : Scope) (trusted : Ty → Prop) : Prop where
  bool : trusted .bool
  ordered : ∀ type : Ty, type.family.isOrdered = true → trusted type
  constant : ∀ name value, scope.constant? name = some value → trusted value.type →
    value.type.admits (.scalar value) = true

theorem Scope.trusts_all {scope : Scope} (members : scope.context.ConstantsAreMembers) :
    scope.Trusts fun _ => True where
  bool := trivial
  ordered _ _ := trivial
  constant _ _ found _ := admits_constant? members found

theorem Scope.trusts_plain (scope : Scope) : scope.Trusts fun type => ∀ enum, type ≠ .enum enum where
  bool := nofun
  ordered type ordered enum isEnum := by
    subst isEnum
    cases ordered
  constant _ _ _ plain := Scalar.admits_type fun member isMember =>
    absurd (isMember ▸ rfl) (plain member.type)

/-! ## Blame -/

/-- How a call goes wrong in the function itself: it fails, or its answer, widened, is outside
the type that it declares. -/
inductive Call.Fails (call : Call) (moment : Calendar.Moment) : EvaluationFault → Prop where
  | body {cause : Fault} (failed : call.function.body moment call.arguments = .error cause) :
    Fails call moment (Evaluation.faultOfCall call.function cause)
  | result {result : Value} (answered : call.function.body moment call.arguments = .ok result)
    (misfit : call.function.signature.returns.admits
      (result.widenTo call.function.signature.returns) = false) :
    Fails call moment (.wrongResult call.function.name
      (result.widenTo call.function.signature.returns).kind call.function.signature.returns)

namespace Evaluation

/-- An evaluation to values of a kind, in which only the last call can go wrong. -/
structure Sound {α : Type} (clock : Clock) (fits : α → Prop) (evaluation : Evaluation α) :
    Prop where
  fits {before : Nat} {value : α} (succeeds : (evaluation before).outcome = .ok value) : fits value
  blames {before : Nat} {fault : EvaluationFault}
    (fails : (evaluation before).outcome = .error fault) :
    ∃ earlier call, (evaluation before).calls = earlier ++ [call] ∧
      call.Fails (clock.moment (before + earlier.length)) fault

variable {α β : Type} {clock : Clock} {fits : α → Prop} {fitsNext : β → Prop}

theorem Sound.imp {evaluation : Evaluation α} {other : α → Prop}
    (sound : evaluation.Sound clock fits) (implied : ∀ value, fits value → other value) :
    evaluation.Sound clock other where
  fits succeeds := implied _ (sound.fits succeeds)
  blames fails := sound.blames fails

theorem Sound.done {value : α} (holds : fits value) : (done value).Sound clock fits where
  fits succeeds := Except.ok.inj succeeds ▸ holds
  blames fails := nomatch fails

theorem Sound.andThen {first : Evaluation α} {second : α → Evaluation β}
    (firstSound : first.Sound clock fits)
    (secondSound : ∀ value, fits value → (second value).Sound clock fitsNext) :
    (first.andThen second).Sound clock fitsNext := by
  constructor
  case fits =>
    intro before result succeeds
    cases outcome : (first before).outcome with
    | error fault =>
      rw [andThen_of_error outcome] at succeeds
      cases succeeds
    | ok value =>
      rw [andThen_of_ok outcome] at succeeds
      exact (secondSound value (firstSound.fits outcome)).fits succeeds
  case blames =>
    intro before fault fails
    cases outcome : (first before).outcome with
    | error cause =>
      rw [andThen_of_error outcome] at fails ⊢
      cases fails
      exact firstSound.blames outcome
    | ok value =>
      rw [andThen_of_ok outcome] at fails ⊢
      rcases (secondSound value (firstSound.fits outcome)).blames fails with
        ⟨earlier, call, calls, failed⟩
      refine ⟨(first before).calls ++ earlier, call, by rw [calls, List.append_assoc], ?_⟩
      rwa [List.length_append, ← Nat.add_assoc]

theorem Sound.map {first : Evaluation α} {change : α → β} (firstSound : first.Sound clock fits)
    (changed : ∀ value, fits value → fitsNext (change value)) :
    (first.map change).Sound clock fitsNext := by
  rw [map_eq_andThen]
  exact firstSound.andThen fun value holds => .done (changed value holds)

theorem answer_eq_error_iff {function : Function} {moment : Calendar.Moment}
    {arguments : List Value} {fault : EvaluationFault} :
    answer function moment arguments = .error fault ↔
      Call.Fails ⟨function, function.passed arguments⟩ moment fault := by
  constructor
  case mp =>
    intro fails
    unfold answer at fails
    split at fails
    case h_1 cause failed =>
      cases fails
      exact .body failed
    case h_2 result answered =>
      dsimp only at fails
      split at fails
      case isTrue => cases fails
      case isFalse misfit =>
        cases fails
        exact .result answered (Bool.eq_false_iff.mpr misfit)
  case mpr =>
    intro fails
    cases fails with
    | body failed =>
      have failed : function.invoke moment arguments = .error _ := failed
      simp only [answer, failed]
    | result answered misfit =>
      have answered : function.invoke moment arguments = .ok _ := answered
      simp only [answer, answered, misfit, Bool.false_eq_true, if_false]

theorem sound_call (clock : Clock) (function : Function) (arguments : List Value) :
    (call clock function arguments).Sound clock
      fun value => function.signature.returns.admits value = true := by
  constructor
  case fits =>
    intro before value succeeds
    simp only [call, answer] at succeeds
    split at succeeds
    case h_1 => cases succeeds
    case h_2 result answered =>
      split at succeeds
      case isTrue admitted => exact Except.ok.inj succeeds ▸ admitted
      case isFalse => cases succeeds
  case blames =>
    exact fun fails => ⟨[], _, rfl, answer_eq_error_iff.mp fails⟩

theorem Sound.expectBool {evaluation : Evaluation Value}
    (sound : evaluation.Sound clock fun value => Ty.bool.admits value = true) :
    (evaluation.andThen Evaluation.expectBool).Sound clock fun _ => True := by
  refine sound.andThen fun value admitted => ?_
  cases value with
  | object record => cases admitted
  | scalar value => cases value <;> first | exact .done trivial | cases admitted

end Evaluation

/-! ## Expressions -/

/-- What is known of the value of an expression: it belongs to the static type, if that is one of
a set, and a literal has its own value. -/
structure Expr.Yields (trusted : Ty → Prop) (expr : Expr) (value : Value) : Prop where
  admits (isTrusted : trusted expr.type) : expr.type.admits value = true
  literal {content : Scalar} {span : Span} (isLiteral : expr = .literal content span) :
    value = .scalar content

namespace Expr

theorem literal_of_isNullLiteral {expr : Expr} (isNull : expr.isNullLiteral = true) :
    ∃ span, expr = .literal .null span := by
  unfold isNullLiteral at isNull
  split at isNull
  case h_1 span => exact ⟨span, rfl⟩
  case h_2 => cases isNull

theorem literal_of_isWildcard {expr : Expr} (wild : expr.isWildcard = true) :
    ∃ span, expr = .literal (.string wildcard) span := by
  unfold isWildcard stringLiteral? at wild
  split at wild
  case h_1 text span => exact ⟨span, by rw [Option.some.inj (beq_iff_eq.mp wild)]⟩
  case h_2 => simp at wild

theorem Orderable.values {scope : Scope} {trusted : Ty → Prop} (trusts : scope.Trusts trusted)
    {left right : Expr} {dependent target : Value} (orderable : left.Orderable right)
    (leftYields : left.Yields trusted dependent) (rightYields : right.Yields trusted target) :
    dependent.Orderable target := by
  cases orderable with
  | nullDependent isNull =>
    rcases literal_of_isNullLiteral isNull with ⟨span, isLiteral⟩
    exact .nullDependent (leftYields.literal isLiteral)
  | nullTarget isNull =>
    rcases literal_of_isNullLiteral isNull with ⟨span, isLiteral⟩
    exact .nullTarget (rightYields.literal isLiteral)
  | wildcard wild =>
    rcases literal_of_isWildcard wild with ⟨span, isLiteral⟩
    exact .wildcard (by simp [rightYields.literal isLiteral, Value.isWildcard])
  | family same ordered =>
    rcases Value.family_of_admits (leftYields.admits (trusts.ordered _ ordered)) ordered with
      isNull | leftFamily
    · exact .nullDependent isNull
    · rw [same] at ordered leftFamily
      rcases Value.family_of_admits (rightYields.admits (trusts.ordered _ ordered)) ordered with
        isNull | rightFamily
      · exact .nullTarget isNull
      · exact .family (leftFamily.trans rightFamily.symm) (rightFamily ▸ ordered)

end Expr

namespace Node

open Evaluation

variable {schema : Schema} {scope : Scope} {trusted : Ty → Prop} {setting : Setting}

theorem sound_compare {relation : Relation} {dependent target : Value}
    (orderable : relation.isOrdering = true → dependent.Orderable target) :
    (compare setting relation dependent target).Sound setting.clock
      fun value => Ty.bool.admits value = true := by
  rcases Value.compare_of_orderable setting.caseSensitive orderable with ⟨holds, compared⟩
  rw [compare, compared]
  exact .done rfl

theorem sound_values {arguments : List Expr}
    (sound : ∀ argument ∈ arguments,
      ((ofExpr argument).value setting).Sound setting.clock (argument.Yields trusted)) :
    (values setting (ofExprs arguments)).Sound setting.clock
      (List.Forall₂ (fun type value => trusted type → type.admits value = true)
        (arguments.map (·.type))) := by
  induction arguments with
  | nil => exact .done .nil
  | cons first rest induction =>
    rw [List.forall_mem_cons] at sound
    refine sound.1.andThen fun value yields => ?_
    exact (induction sound.2).map fun _ others => .cons yields.admits others

theorem sound_test (trusts : scope.Trusts trusted) {operand : Expr} (isBool : operand.type = .bool)
    (sound : ((ofExpr operand).value setting).Sound setting.clock (operand.Yields trusted)) :
    (test setting (ofExpr operand)).Sound setting.clock fun _ => True := by
  refine (sound.imp fun _ yields => ?_).expectBool
  have admitted := yields.admits
  rw [isBool] at admitted
  exact admitted trusts.bool

/-- A checked expression evaluates to a value of its type, or a call is to blame. -/
theorem sound_value (setting : Setting) (built : setting.record.Built schema)
    (ofContext : setting.record.type = scope.context)
    (trusts : scope.Trusts trusted) {expr : Expr} (checked : expr.Checked scope) :
    ((ofExpr expr).value setting).Sound setting.clock (expr.Yields trusted) := by
  induction checked with
  | literal plain =>
    refine .done ⟨fun _ => Scalar.admits_type fun member isEnum => absurd isEnum (plain member), ?_⟩
    intro content span isLiteral
    cases isLiteral
    rfl
  | property found =>
    rcases built.read_of_resolve (ofContext ▸ found) with ⟨value, _, checkedSlots, admitted⟩
    rw [ofExpr, Node.value, Record.atSlots_of_checkedSlots? checkedSlots]
    exact .done ⟨fun _ => admitted, by rintro _ _ ⟨⟩⟩
  | constant found => exact .done ⟨trusts.constant _ _ found, by rintro _ _ ⟨⟩⟩
  | @call _ function _ _ checked resolved induction =>
    refine (sound_values induction).andThen fun arguments _ => ?_
    exact (sound_call setting.clock function arguments).imp
      fun _ admitted => ⟨fun _ => admitted, by rintro _ _ ⟨⟩⟩
  | not checked isBool induction =>
    exact (sound_test trusts isBool induction).map fun _ _ => ⟨fun _ => rfl, by rintro _ _ ⟨⟩⟩
  | and _ _ leftIsBool rightIsBool leftInduction rightInduction =>
    refine (sound_test trusts leftIsBool leftInduction).andThen fun holds _ => ?_
    split
    case isTrue =>
      exact (sound_test trusts rightIsBool rightInduction).map fun _ _ => ⟨fun _ => rfl, by rintro _ _ ⟨⟩⟩
    case isFalse => exact .done ⟨fun _ => rfl, by rintro _ _ ⟨⟩⟩
  | or _ _ leftIsBool rightIsBool leftInduction rightInduction =>
    refine (sound_test trusts leftIsBool leftInduction).andThen fun holds _ => ?_
    split
    case isTrue => exact .done ⟨fun _ => rfl, by rintro _ _ ⟨⟩⟩
    case isFalse =>
      exact (sound_test trusts rightIsBool rightInduction).map fun _ _ => ⟨fun _ => rfl, by rintro _ _ ⟨⟩⟩
  | relational _ _ orderable leftInduction rightInduction =>
    refine leftInduction.andThen fun dependent leftYields => ?_
    refine rightInduction.andThen fun target rightYields => ?_
    refine (sound_compare fun ordering => ?_).imp fun _ admitted => ⟨fun _ => admitted, by rintro _ _ ⟨⟩⟩
    exact (orderable ordering).values trusts leftYields rightYields

/-! ## Calls -/

end Node

namespace Evaluation

def CallsOnly {α : Type} (allowed : Call → Prop) (evaluation : Evaluation α) : Prop :=
  ∀ before, ∀ call ∈ (evaluation before).calls, allowed call

variable {α β : Type} {allowed : Call → Prop}

theorem callsOnly_ofOutcome (outcome : Except EvaluationFault α) :
    (ofOutcome outcome).CallsOnly allowed :=
  fun _ _ member => nomatch member

theorem CallsOnly.andThen {first : Evaluation α} {second : α → Evaluation β}
    (firstCalls : first.CallsOnly allowed)
    (secondCalls : ∀ value, (∃ before, (first before).outcome = .ok value) →
      (second value).CallsOnly allowed) :
    (first.andThen second).CallsOnly allowed := by
  intro before call member
  cases outcome : (first before).outcome with
  | error fault =>
    rw [andThen_of_error outcome] at member
    exact firstCalls before call member
  | ok value =>
    rw [andThen_of_ok outcome] at member
    rcases List.mem_append.mp member with member | member
    · exact firstCalls before call member
    · exact secondCalls value ⟨before, outcome⟩ _ call member

theorem CallsOnly.map {first : Evaluation α} (firstCalls : first.CallsOnly allowed)
    (change : α → β) : (first.map change).CallsOnly allowed :=
  firstCalls

theorem callsOnly_call {function : Function} {arguments : List Value}
    (isAllowed : allowed ⟨function, function.passed arguments⟩) (clock : Clock) :
    (call clock function arguments).CallsOnly allowed := by
  intro before other member
  rcases List.mem_singleton.mp member with rfl
  exact isAllowed

theorem callsOnly_expectBool (value : Value) : (expectBool value).CallsOnly allowed := by
  unfold expectBool
  split <;> exact callsOnly_ofOutcome _

end Evaluation

namespace Node

open Evaluation

variable {scope : Scope} {setting : Setting} {allowed : Call → Prop}

theorem callsOnly_test {node : Node} (calls : (node.value setting).CallsOnly allowed) :
    (test setting node).CallsOnly allowed :=
  calls.andThen fun value _ => callsOnly_expectBool value

theorem callsOnly_values {arguments : List Expr}
    (calls : ∀ argument ∈ arguments, ((ofExpr argument).value setting).CallsOnly allowed) :
    (values setting (ofExprs arguments)).CallsOnly allowed := by
  induction arguments with
  | nil => exact callsOnly_ofOutcome _
  | cons first rest induction =>
    rw [List.forall_mem_cons] at calls
    exact calls.1.andThen fun value _ => (induction calls.2).map _

theorem callsOnly_value {expr : Expr} (checked : expr.Checked scope)
    (occurring : ∀ function arguments span, .call function arguments span ∈ expr.parts →
      ∀ passed, allowed ⟨function, passed⟩) : ((ofExpr expr).value setting).CallsOnly allowed := by
  induction checked with
  | literal | property | constant => exact callsOnly_ofOutcome _
  | call _ _ induction =>
    refine (callsOnly_values fun argument isArgument => induction argument isArgument ?_).andThen
      fun arguments _ => callsOnly_call (occurring _ _ _ (Expr.mem_parts_self _) _) _
    intro function inner span member
    refine occurring function inner span (List.mem_cons_of_mem _ ?_)
    rw [Expr.partsOf_eq_flatMap]
    exact List.mem_flatMap.mpr ⟨argument, isArgument, member⟩
  | not _ _ induction =>
    have operandCalls := induction fun function arguments span member =>
      occurring function arguments span (by simp [Expr.parts, member])
    exact (callsOnly_test operandCalls).map _
  | and _ _ _ _ leftInduction rightInduction =>
    have leftCalls := leftInduction fun function arguments span member =>
      occurring function arguments span (by simp [Expr.parts, member])
    have rightCalls := rightInduction fun function arguments span member =>
      occurring function arguments span (by simp [Expr.parts, member])
    refine (callsOnly_test leftCalls).andThen fun holds _ => ?_
    split
    · exact (callsOnly_test rightCalls).map _
    · exact callsOnly_ofOutcome _
  | or _ _ _ _ leftInduction rightInduction =>
    have leftCalls := leftInduction fun function arguments span member =>
      occurring function arguments span (by simp [Expr.parts, member])
    have rightCalls := rightInduction fun function arguments span member =>
      occurring function arguments span (by simp [Expr.parts, member])
    refine (callsOnly_test leftCalls).andThen fun holds _ => ?_
    split
    · exact callsOnly_ofOutcome _
    · exact (callsOnly_test rightCalls).map _
  | relational _ _ _ leftInduction rightInduction =>
    have leftCalls := leftInduction fun function arguments span member =>
      occurring function arguments span (by simp [Expr.parts, member])
    have rightCalls := rightInduction fun function arguments span member =>
      occurring function arguments span (by simp [Expr.parts, member])
    exact leftCalls.andThen fun _ _ => rightCalls.andThen fun _ _ => callsOnly_ofOutcome _

end Node

/-! ## Compiled conditions -/

/-- A condition calls functions of the library that it was compiled with. -/
theorem Compiler.mem_functions_of_compileFresh {compiler : Compiler} {context : ObjectType}
    {source : String} {compiled : Compiled}
    (fresh : compiler.compileFresh context source = .ok compiled) {record : Record}
    (ofContext : record.type = context) (clock : Clock) :
    ∀ call ∈ (compiled.predicate.evaluate clock record).calls,
      call.function ∈ compiler.library.functions := by
  rcases Outcome.bind_eq_ok.mp fresh with ⟨tokens, _, fresh⟩
  rcases Outcome.bind_eq_ok.mp fresh with ⟨expr, read, fresh⟩
  rcases Outcome.bind_eq_ok.mp fresh with ⟨references, _, fresh⟩
  cases fresh
  have checked := (Expr.checked_of_ofTokens read).1
  rw [Predicate.evaluate_ofExpr ofContext]
  refine Node.callsOnly_test (Node.callsOnly_value checked ?_) 0
  intro function arguments span member passed
  cases checked.of_mem_parts member with
  | call _ resolved =>
    exact (List.mem_filter.mp (Library.mem_overloads_of_resolve resolved)).1

def Expr.isCall : Expr → Bool
  | .call .. => true
  | _ => false

theorem Expr.Checked.checkedSlots? {schema : Schema} {scope : Scope} {path : String}
    {slots : List Nat} {type : Ty} {span : Span} {record : Record}
    (checked : (Expr.property path slots type span).Checked scope) (built : record.Built schema)
    (ofContext : record.type = scope.context) :
    record.checkedSlots? slots = some (record.atSlots slots) := by
  cases checked with
  | property found =>
    rcases built.read_of_resolve (ofContext ▸ found) with ⟨value, _, checkedSlots, _⟩
    rw [checkedSlots, Record.atSlots_of_checkedSlots? checkedSlots]

theorem Evaluation.Sound.succeeds {α : Type} {clock : Clock} {fits : α → Prop}
    {evaluation : Evaluation α} (sound : evaluation.Sound clock fits)
    (noCalls : evaluation.CallsOnly fun _ => False) (before : Nat) :
    ∃ value, evaluation before = ⟨[], .ok value⟩ := by
  have calls : (evaluation before).calls = [] :=
    List.eq_nil_iff_forall_not_mem.mpr (noCalls before)
  cases outcome : (evaluation before).outcome with
  | ok value => exact ⟨value, by rw [← calls, ← outcome]⟩
  | error fault =>
    rcases sound.blames outcome with ⟨earlier, call, blamed, _⟩
    simp [calls] at blamed

/-- That a condition, which was read as an expression, does not go wrong on a record: what
occurs in the expression evaluates to values of its static type, no slot lies outside its
record, and the condition holds or does not, unless the last function that was called failed or
answered outside its declared type; without calls it always does. -/
structure Compiled.SoundOn (compiled : Compiled) (expr : Expr) (record : Record) (clock : Clock) :
    Prop where
  admits : ∀ part ∈ expr.parts, ∀ before value,
    ((Node.ofExpr part).value
      ⟨record, clock, compiled.predicate.caseSensitive⟩ before).outcome = .ok value →
    part.type.admits value = true
  inside : ∀ path slots type span, .property path slots type span ∈ expr.parts →
    record.checkedSlots? slots = some (record.atSlots slots)
  blames : (∃ holds, (compiled.predicate.evaluate clock record).outcome = .ok holds) ∨
    ∃ earlier call fault, (compiled.predicate.evaluate clock record).calls = earlier ++ [call] ∧
      (compiled.predicate.evaluate clock record).outcome = .error fault ∧
      call.Fails (clock.moment earlier.length) fault
  succeeds : (∀ part ∈ expr.parts, part.isCall = false) →
    ∃ holds, compiled.predicate.evaluate clock record = ⟨[], .ok holds⟩

/-- A compiled condition does not go wrong on the records that can be built for its type. -/
theorem Compiler.Reached.exists_soundOn {schema : Schema} {compiler : Compiler}
    (reached : compiler.Reached schema) {context : ObjectType} (known : context ∈ schema.types)
    (members : context.ConstantsAreMembers) {source : String} {compiled : Compiled}
    (accepted : (compiler.compile context source).1 = .ok compiled) :
    ∃ expr, compiled.ReadAs context source expr ∧
      ∀ (record : Record) (clock : Clock), record.Built schema → record.type = context →
        compiled.SoundOn expr record clock := by
  rcases reached.readAs known accepted with ⟨expr, readAs⟩
  refine ⟨expr, readAs, fun record clock built ofContext => ?_⟩
  rcases readAs.read with ⟨lexer, scope, tokens, rfl, _, read⟩
  rcases Expr.checked_of_ofTokens read with ⟨checked, isBool⟩
  let setting : Setting := ⟨record, clock, compiled.predicate.caseSensitive⟩
  have trusts := Scope.trusts_all members
  have sound : (Node.test setting (.ofExpr expr)).Sound clock fun _ => True :=
    Node.sound_test trusts isBool (Node.sound_value setting built ofContext trusts checked)
  have evaluated : compiled.predicate.evaluate clock record =
      Node.test setting (.ofExpr expr) 0 := by
    rw [readAs.predicate_eq, Predicate.evaluate_ofExpr ofContext]
  constructor
  case admits =>
    intro part member before value succeeds
    have partChecked := checked.of_mem_parts member
    have yields := (Node.sound_value setting built ofContext trusts partChecked).fits succeeds
    exact yields.admits trivial
  case inside =>
    intro path slots type span member
    exact (checked.of_mem_parts member).checkedSlots? built ofContext
  case blames =>
    rw [evaluated]
    cases outcome : (Node.test setting (.ofExpr expr) 0).outcome with
    | ok holds => exact .inl ⟨holds, rfl⟩
    | error fault =>
      rcases sound.blames outcome with ⟨earlier, call, calls, fails⟩
      exact .inr ⟨earlier, call, fault, calls, rfl, by rwa [Nat.zero_add] at fails⟩
  case succeeds =>
    intro noCalls
    rw [evaluated]
    refine sound.succeeds (Node.callsOnly_test (Node.callsOnly_value checked ?_)) 0
    intro function arguments span member _
    exact absurd (noCalls _ member) (by simp [Expr.isCall])

theorem Compiler.exists_soundOn_homeless :
    ∃ compiled, (ofAges.compile .person "18<=Age").1 = .ok compiled ∧
      ∃ expr, compiled.ReadAs .person "18<=Age" expr ∧
        compiled.SoundOn expr (.homeless 20 "Ada")
          (.stopped (.midnight ⟨2024, 1, 1, by decide⟩)) := by
  have accepts : (ofAges.compile .person "18<=Age").1.toOption.any (fun _ => true) = true := by
    decide +kernel
  rcases Outcome.exists_eq_ok_of_any accepts with ⟨compiled, accepted, _⟩
  have members : ObjectType.person.ConstantsAreMembers := fun name value member => nomatch member
  rcases Reached.exists_soundOn reached_ofAges (List.mem_cons_self ..) members accepted with
    ⟨expr, readAs, sound⟩
  exact ⟨compiled, accepted, expr, readAs, sound _ _ (Record.built_homeless 20 "Ada") rfl⟩

end Proviso
