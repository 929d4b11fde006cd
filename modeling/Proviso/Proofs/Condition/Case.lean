import Proviso.Proofs.Compiler.Coherence
import Proviso.Proofs.Condition.Soundness
import Proviso.Proofs.Record.Typing
import Proviso.Proofs.Value.Case

/-!
Conditions that ignore case. A condition that was compiled without regard to case, that calls no
function and compares no two records, judges records alike that are the same but for case: the two
evaluations go side by side, with values that are the same but for case and with equal booleans.
-/

namespace Proviso

/-! ## Reading -/

theorem sameButCase_getD {values others : List Value}
    (same : List.Forall₂ Value.SameButCase values others) (slot : Nat) :
    (values[slot]?.getD .null).SameButCase (others[slot]?.getD .null) := by
  induction same generalizing slot with
  | nil => exact .scalar (.same .null)
  | cons first _ induction =>
    cases slot with
    | zero => exact first
    | succ slot => exact induction slot

theorem Value.SameButCase.slotsFrom {first second : Value} (same : first.SameButCase second)
    (slots : List Nat) :
    (Record.slotsFrom first slots).SameButCase (Record.slotsFrom second slots) := by
  induction slots generalizing first second with
  | nil =>
    rw [Record.slotsFrom, Record.slotsFrom]
    exact same
  | cons slot rest induction =>
    cases same with
    | @scalar value other same =>
      have absent (value : Scalar) : Record.slotsFrom (.scalar value) (slot :: rest) = .null := rfl
      rw [absent, absent]
      exact .scalar (.same .null)
    | @object record other _ values =>
      rw [Record.slotsFrom, Record.slotsFrom]
      exact induction (sameButCase_getD values slot)

theorem Record.SameButCase.atSlots {record other : Record} (same : record.SameButCase other)
    (slots : List Nat) : (record.atSlots slots).SameButCase (other.atSlots slots) := by
  cases slots with
  | nil => exact .scalar (.same .null)
  | cons slot rest =>
    have first := Value.SameButCase.slotsFrom same (slot :: rest)
    rwa [Record.slotsFrom, Record.slotsFrom] at first

/-! ## Two evaluations -/

namespace Evaluation

variable {α β γ δ : Type}

def Relates (related : α → β → Prop) (evaluation : Evaluation α) (other : Evaluation β) : Prop :=
  ∀ before otherBefore value otherValue, (evaluation before).outcome = .ok value →
    (other otherBefore).outcome = .ok otherValue → related value otherValue

variable {related : α → β → Prop} {onward : γ → δ → Prop}

theorem relates_done {value : α} {other : β} (holds : related value other) :
    (done value).Relates related (done other) := by
  intro before otherBefore value otherValue succeeds otherSucceeds
  cases succeeds
  cases otherSucceeds
  exact holds

theorem Relates.andThen {first : Evaluation α} {other : Evaluation β} {next : α → Evaluation γ}
    {otherNext : β → Evaluation δ} (firstRelates : first.Relates related other)
    (nextRelates : ∀ value otherValue, related value otherValue →
      (next value).Relates onward (otherNext otherValue)) :
    (first.andThen next).Relates onward (other.andThen otherNext) := by
  intro before otherBefore result otherResult succeeds otherSucceeds
  cases outcome : (first before).outcome with
  | error fault =>
    rw [andThen_of_error outcome] at succeeds
    cases succeeds
  | ok value =>
    cases otherOutcome : (other otherBefore).outcome with
    | error fault =>
      rw [andThen_of_error otherOutcome] at otherSucceeds
      cases otherSucceeds
    | ok otherValue =>
      rw [andThen_of_ok outcome] at succeeds
      rw [andThen_of_ok otherOutcome] at otherSucceeds
      exact nextRelates value otherValue
        (firstRelates before otherBefore value otherValue outcome otherOutcome)
        _ _ result otherResult succeeds otherSucceeds

theorem Relates.map {first : Evaluation α} {other : Evaluation β} {change : α → γ}
    {otherChange : β → δ} (firstRelates : first.Relates related other)
    (changed : ∀ value otherValue, related value otherValue →
      onward (change value) (otherChange otherValue)) :
    (first.map change).Relates onward (other.map otherChange) := by
  rw [map_eq_andThen, map_eq_andThen]
  exact firstRelates.andThen fun value otherValue holds =>
    relates_done (changed value otherValue holds)

theorem Relates.imp {evaluation : Evaluation α} {other : Evaluation β} {implied : α → β → Prop}
    (relates : evaluation.Relates related other)
    (implies : ∀ value otherValue, related value otherValue → implied value otherValue) :
    evaluation.Relates implied other :=
  fun before otherBefore value otherValue succeeds otherSucceeds =>
    implies value otherValue (relates before otherBefore value otherValue succeeds otherSucceeds)

theorem relates_expectBool {value other : Value} (same : value.SameButCase other) :
    (expectBool value).Relates Eq (expectBool other) := by
  intro before otherBefore holds otherHolds succeeds otherSucceeds
  cases same with
  | object => cases succeeds
  | @scalar content other same =>
    cases same.variant with
    | same =>
      cases content <;>
        first | cases succeeds; done | cases succeeds; cases otherSucceeds; rfl
    | _ => cases succeeds

end Evaluation

/-! ## Records among the operands -/

theorem Ty.isObject_of_admits {type : Ty} {value : Value} (admitted : type.admits value = true)
    (plain : type.object? = none) : value.isObject = false := by
  fun_induction object? type with
  | case1 => cases plain
  | case2 inner induction =>
    rcases admits_nullable.mp admitted with rfl | admitted
    · rfl
    · exact induction admitted plain
  | case3 type notObject notNullable =>
    cases value with
    | scalar => rfl
    | object => cases type <;> simp_all [admits]

namespace Expr

/-- Whether an expression is a comparison of which both sides may be records. -/
def comparesRecords : Expr → Bool
  | .relational _ left right _ => left.type.object?.isSome && right.type.object?.isSome
  | _ => false

/-- What is known of the values of an expression in two evaluations: they are the same but for
case, and records only where the type is one of records. -/
structure Corresponds (expr : Expr) (value other : Value) : Prop where
  same : value.SameButCase other
  single (plain : expr.type.object? = none) : value.isObject = false

end Expr

namespace Node

open Evaluation

variable {schema : Schema} {scope : Scope} {setting other : Setting}

theorem relates_test {expr : Expr}
    (related : ((ofExpr expr).value setting).Relates expr.Corresponds
      ((ofExpr expr).value other)) :
    (test setting (ofExpr expr)).Relates Eq (test other (ofExpr expr)) :=
  related.andThen fun _ _ corresponds => relates_expectBool corresponds.same

theorem corresponds_bool (expr : Expr) (holds : Bool) :
    expr.Corresponds (.bool holds) (.bool holds) :=
  ⟨.scalar (.same _), fun _ => rfl⟩

theorem relates_compare {left right : Expr} {relation : Relation}
    {dependent target dependent' target' : Value}
    (insensitive : setting.caseSensitive = false) (otherInsensitive : other.caseSensitive = false)
    (apart : (left.type.object?.isSome && right.type.object?.isSome) = false)
    (corresponds : left.Corresponds dependent dependent')
    (targetCorresponds : right.Corresponds target target') :
    (compare setting relation dependent target).Relates
      (fun value other => ∃ holds, value = .bool holds ∧ other = .bool holds)
      (compare other relation dependent' target') := by
  have single : dependent.isObject = false ∨ target.isObject = false := by
    rw [Bool.and_eq_false_iff, Option.isSome_eq_false_iff, Option.isSome_eq_false_iff,
      Option.isNone_iff_eq_none, Option.isNone_iff_eq_none] at apart
    exact apart.imp corresponds.single targetCorresponds.single
  unfold compare
  rw [insensitive, otherInsensitive, corresponds.same.compare_eq targetCorresponds.same single]
  cases dependent'.compare relation false target' with
  | ok holds => exact relates_done ⟨holds, rfl, rfl⟩
  | error fault =>
    intro before otherBefore value otherValue succeeds
    cases succeeds

theorem relates_value (built : setting.record.Built schema)
    (ofContext : setting.record.type = scope.context)
    (sameRecord : setting.record.SameButCase other.record)
    (insensitive : setting.caseSensitive = false) (otherInsensitive : other.caseSensitive = false)
    {expr : Expr} (checked : expr.Checked scope)
    (plain : ∀ part ∈ expr.parts, part.isCall = false ∧ part.comparesRecords = false) :
    ((ofExpr expr).value setting).Relates expr.Corresponds ((ofExpr expr).value other) := by
  induction checked with
  | literal | constant => exact relates_done ⟨.scalar (.same _), fun _ => rfl⟩
  | @property _ slots _ _ found =>
    rcases built.read_of_resolve (ofContext ▸ found) with ⟨value, _, checkedSlots, admitted⟩
    rw [← Record.atSlots_of_checkedSlots? checkedSlots] at admitted
    exact relates_done ⟨sameRecord.atSlots slots, Ty.isObject_of_admits admitted⟩
  | call => exact absurd (plain _ (Expr.mem_parts_self _)).1 (by simp [Expr.isCall])
  | not _ _ induction =>
    have related := induction fun part member => plain part (by simp [Expr.parts, member])
    refine (relates_test related).map ?_
    rintro holds _ rfl
    exact corresponds_bool _ _
  | and _ _ _ _ leftInduction rightInduction =>
    have left := leftInduction fun part member => plain part (by simp [Expr.parts, member])
    have right := rightInduction fun part member => plain part (by simp [Expr.parts, member])
    refine (relates_test left).andThen ?_
    rintro holds _ rfl
    split
    · refine (relates_test right).map ?_
      rintro holds _ rfl
      exact corresponds_bool _ _
    · exact relates_done (corresponds_bool _ _)
  | or _ _ _ _ leftInduction rightInduction =>
    have left := leftInduction fun part member => plain part (by simp [Expr.parts, member])
    have right := rightInduction fun part member => plain part (by simp [Expr.parts, member])
    refine (relates_test left).andThen ?_
    rintro holds _ rfl
    split
    · exact relates_done (corresponds_bool _ _)
    · refine (relates_test right).map ?_
      rintro holds _ rfl
      exact corresponds_bool _ _
  | relational _ _ _ leftInduction rightInduction =>
    have left := leftInduction fun part member => plain part (by simp [Expr.parts, member])
    have right := rightInduction fun part member => plain part (by simp [Expr.parts, member])
    have apart := (plain _ (Expr.mem_parts_self _)).2
    refine left.andThen fun dependent dependent' corresponds =>
      right.andThen fun target target' targetCorresponds => ?_
    refine (relates_compare insensitive otherInsensitive apart corresponds targetCorresponds).imp ?_
    rintro _ _ ⟨holds, rfl, rfl⟩
    exact corresponds_bool _ _

theorem exists_test_eq (built : setting.record.Built schema)
    (ofContext : setting.record.type = scope.context) {expr : Expr} (checked : expr.Checked scope)
    (isBool : expr.type = .bool) (noCalls : ∀ part ∈ expr.parts, part.isCall = false)
    (before : Nat) : ∃ holds, test setting (ofExpr expr) before = ⟨[], .ok holds⟩ := by
  have sound := sound_test scope.trusts_plain isBool
    (sound_value setting built ofContext scope.trusts_plain checked)
  refine sound.succeeds (callsOnly_test (callsOnly_value checked ?_)) before
  intro function arguments span member _
  exact absurd (noCalls _ member) (by simp [Expr.isCall])

end Node

/-! ## Compiled conditions -/

namespace Compiler

variable {schema : Schema} {compiler : Compiler} {context : ObjectType} {source : String}
  {compiled : Compiled}

def KeepsCase (compiler : Compiler) : Prop :=
  ∀ key compiled, (key, compiled) ∈ compiler.cache →
    compiled.predicate.caseSensitive = compiler.config.caseSensitive

theorem caseSensitive_of_compileFresh
    (fresh : compiler.compileFresh context source = .ok compiled) :
    compiled.predicate.caseSensitive = compiler.config.caseSensitive := by
  rcases Outcome.bind_eq_ok.mp fresh with ⟨tokens, _, fresh⟩
  rcases Outcome.bind_eq_ok.mp fresh with ⟨expr, _, fresh⟩
  rcases Outcome.bind_eq_ok.mp fresh with ⟨references, _, fresh⟩
  cases fresh
  rfl

theorem KeepsCase.compile (keeps : compiler.KeepsCase) (context : ObjectType) (source : String) :
    (compiler.compile context source).2.KeepsCase ∧
      ∀ compiled, (compiler.compile context source).1 = .ok compiled →
        compiled.predicate.caseSensitive = compiler.config.caseSensitive := by
  have outcome := compiler.compileOutcome context source
  generalize compiler.compile context source = result at outcome
  cases outcome with
  | tooLong => exact ⟨keeps, nofun⟩
  | known _ found =>
    refine ⟨keeps, ?_⟩
    rintro _ ⟨⟩
    rcases List.lookup_eq_some_iff.mp found with ⟨before, after, cache, _⟩
    have member : (⟨context.id, source⟩, _) ∈ compiler.cache :=
      cache ▸ List.mem_append_right _ (List.mem_cons_self ..)
    exact keeps _ _ member
  | refused => exact ⟨keeps, nofun⟩
  | fresh _ _ succeeds =>
    have caseSensitive := caseSensitive_of_compileFresh succeeds
    constructor
    · intro key kept member
      simp only [keep] at member
      split at member
      case isTrue =>
        rcases List.mem_cons.mp member with equal | member
        · cases equal
          exact caseSensitive
        · exact keeps key kept member
      case isFalse => exact keeps key kept member
    · rintro _ ⟨⟩
      exact caseSensitive

theorem Reached.keepsCase (reached : compiler.Reached schema) : compiler.KeepsCase := by
  induction reached with
  | initial empty =>
    intro key kept member
    rw [empty] at member
    cases member
  | withLexer => exact nofun
  | registerEnum _ type induction =>
    unfold Compiler.registerEnum
    split
    case isTrue => exact induction
    case isFalse => exact nofun
  | register _ registered induction =>
    rcases Outcome.map_eq_ok.mp registered with ⟨library, _, rfl⟩
    exact induction
  | forget _ fewer induction => exact fun key kept member => induction key kept (fewer member)
  | @compile _ context _ _ source induction => exact (induction.compile context source).1

theorem Reached.caseSensitive_eq (reached : compiler.Reached schema)
    (accepted : (compiler.compile context source).1 = .ok compiled) :
    compiled.predicate.caseSensitive = compiler.config.caseSensitive :=
  (reached.keepsCase.compile context source).2 compiled accepted

/-- A condition that was compiled without regard to case judges records alike that are the same but
for case, at any time, if it calls no function and compares no two records. -/
theorem Reached.evaluate_eq_of_sameButCase (reached : compiler.Reached schema)
    (known : context ∈ schema.types)
    (accepted : (compiler.compile context source).1 = .ok compiled)
    (insensitive : compiler.config.caseSensitive = false) :
    (∃ expr, compiled.ReadAs context source expr) ∧
      ∀ expr, compiled.ReadAs context source expr →
        (∀ part ∈ expr.parts, part.isCall = false ∧ part.comparesRecords = false) →
        ∀ record other : Record, record.Built schema → other.Built schema →
          record.type = context → other.type = context → record.SameButCase other →
          ∀ clock otherClock : Clock, ∃ holds,
            compiled.predicate.evaluate clock record = ⟨[], .ok holds⟩ ∧
            compiled.predicate.evaluate otherClock other = ⟨[], .ok holds⟩ := by
  refine ⟨reached.readAs known accepted, ?_⟩
  intro expr readAs plain record other built otherBuilt ofContext otherOfContext same clock
    otherClock
  rcases readAs.read with ⟨lexer, scope, tokens, rfl, _, read⟩
  rcases Expr.checked_of_ofTokens read with ⟨checked, isBool⟩
  have ignores : compiled.predicate.caseSensitive = false :=
    (reached.caseSensitive_eq accepted).trans insensitive
  rw [readAs.predicate_eq, Predicate.evaluate_ofExpr ofContext,
    Predicate.evaluate_ofExpr otherOfContext]
  let setting : Setting := ⟨record, clock, compiled.predicate.caseSensitive⟩
  let otherSetting : Setting := ⟨other, otherClock, compiled.predicate.caseSensitive⟩
  have noCalls part member := (plain part member).1
  have isBuilt : setting.record.Built schema := built
  have otherIsBuilt : otherSetting.record.Built schema := otherBuilt
  have sameRecord : setting.record.SameButCase otherSetting.record := same
  rcases Node.exists_test_eq isBuilt ofContext checked isBool noCalls 0 with ⟨holds, judged⟩
  rcases Node.exists_test_eq otherIsBuilt otherOfContext checked isBool noCalls 0 with
    ⟨otherHolds, otherJudged⟩
  have related := Node.relates_test
    (Node.relates_value isBuilt ofContext sameRecord ignores ignores checked plain)
  have equal : holds = otherHolds :=
    related 0 0 holds otherHolds (by rw [judged]) (by rw [otherJudged])
  exact ⟨holds, judged, equal ▸ otherJudged⟩

def ofNames : Compiler where
  library := .empty
  config := { caseSensitive := false }
  lexer := (Lexer.ofTable
    [("Name", .identifier), ("==", .relation), ("'ada'", .string)]).toOption.getD []

theorem evaluate_eq_ada :
    ∃ compiled expr, (ofNames.compile .person "Name=='ada'").1 = .ok compiled ∧
      compiled.ReadAs .person "Name=='ada'" expr ∧
      (Record.homeless 20 "Ada").SameButCase (.homeless 20 "ADA") ∧
      ∃ holds,
        compiled.predicate.evaluate (.stopped (.midnight ⟨2024, 1, 1, by decide⟩))
          (.homeless 20 "Ada") = ⟨[], .ok holds⟩ ∧
        compiled.predicate.evaluate (.stopped (.midnight ⟨2024, 1, 1, by decide⟩))
          (.homeless 20 "ADA") = ⟨[], .ok holds⟩ := by
  have readable : (ofNames.lexer.tokenize "Name=='ada'" false >>= fun tokens =>
      Expr.ofTokens (ofNames.scope .person) tokens >>= fun expr =>
        (References.ofExpr expr).map fun references => (tokens, expr, references)).toOption.any
      (fun read => read.2.1.parts.all fun part => !part.isCall && !part.comparesRecords) =
        true := by
    decide +kernel
  rcases Outcome.exists_eq_ok_of_any readable with ⟨_, succeeds, plain⟩
  rcases Outcome.bind_eq_ok.mp succeeds with ⟨tokens, tokenized, succeeds⟩
  rcases Outcome.bind_eq_ok.mp succeeds with ⟨expr, read, succeeds⟩
  rcases Outcome.map_eq_ok.mp succeeds with ⟨references, referred, rfl⟩
  have fresh : ofNames.compileFresh .person "Name=='ada'" =
      .ok ⟨0, "Name=='ada'", .ofExpr .person false expr, references⟩ :=
    Outcome.bind_eq_ok.mpr ⟨tokens, tokenized, Outcome.bind_eq_ok.mpr ⟨expr, read,
      Outcome.bind_eq_ok.mpr ⟨references, referred, rfl⟩⟩⟩
  have short : Text.byteLength "Name=='ada'".toList ≤ ofNames.config.maxLength := by decide
  have absent : ofNames.cached? ⟨ObjectType.person.id, "Name=='ada'"⟩ = none := rfl
  have accepted := (compile_of_absent short absent).trans fresh
  have readAs : (⟨0, "Name=='ada'", .ofExpr .person false expr, references⟩ : Compiled).ReadAs
      .person "Name=='ada'" expr :=
    ⟨rfl, ⟨_, _, tokens, rfl, tokenized, read⟩, rfl, referred⟩
  have same : (Record.homeless 20 "Ada").SameButCase (.homeless 20 "ADA") :=
    .object rfl (.cons (.scalar (.same _)) (.cons (.scalar (.lowered (by decide)))
      (.cons (.scalar (.same _)) .nil)))
  refine ⟨_, expr, accepted, readAs, same, ?_⟩
  refine (Reached.evaluate_eq_of_sameButCase (.initial rfl : ofNames.Reached .people)
    (List.mem_cons_self ..) accepted rfl).2 expr readAs ?_ _ _ (Record.built_homeless 20 "Ada")
    (Record.built_homeless 20 "ADA") rfl rfl same _ _
  intro part member
  have isPlain := List.all_eq_true.mp plain part member
  simpa using isPlain

end Compiler

end Proviso
