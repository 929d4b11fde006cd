import Proviso.Proofs.Condition.Soundness

/-!
Where the faults of evaluations come from. A call that goes wrong ends the evaluation, which comes
to the fault of the call. An evaluation that comes to a fault was ended by a call, or was not given
a boolean or an order where it needs one. All of this holds of any condition, whether it was
checked or not, and on any record.
-/

namespace Proviso

namespace Evaluation

/-! ## Reports -/

inductive Finds : EvaluationFault → Prop where
  | notBoolean {value : Value} (other : ∀ holds, value ≠ .bool holds) :
    Finds (.notBoolean value.kind)
  | comparisonFailed {relation : Relation} {caseSensitive : Bool} {dependent target : Value}
    {cause : ComparisonFault}
    (undefined : dependent.compare relation caseSensitive target = .error cause) :
    Finds (.comparisonFailed cause)

/-- An evaluation that ends where a call goes wrong, with the fault of the call, and that comes to
no fault but that of its last call or one that it finds itself. -/
structure Reports {α : Type} (clock : Clock) (evaluation : Evaluation α) : Prop where
  ends {before : Nat} {earlier later : List Call} {call : Call} {fault : EvaluationFault}
    (calls : (evaluation before).calls = earlier ++ call :: later)
    (fails : call.Fails (clock.moment (before + earlier.length)) fault) :
    later = [] ∧ (evaluation before).outcome = .error fault
  blames {before : Nat} {fault : EvaluationFault}
    (fails : (evaluation before).outcome = .error fault) :
    Finds fault ∨ ∃ earlier call, (evaluation before).calls = earlier ++ [call] ∧
      call.Fails (clock.moment (before + earlier.length)) fault

variable {α β : Type} {clock : Clock}

theorem reports_ofOutcome {outcome : Except EvaluationFault α}
    (finds : ∀ fault, outcome = .error fault → Finds fault) :
    (ofOutcome outcome).Reports clock where
  ends calls _ := absurd calls.symm (by simp [ofOutcome])
  blames fails := .inl (finds _ fails)

theorem reports_done (value : α) : (done value).Reports clock :=
  reports_ofOutcome nofun

theorem split_of_append_eq {first next earlier later : List Call} {call : Call}
    (calls : first ++ next = earlier ++ call :: later) :
    (∃ inner, first = earlier ++ call :: inner) ∨
      ∃ inner, earlier = first ++ inner ∧ next = inner ++ call :: later := by
  rcases List.append_eq_append_iff.mp calls with ⟨inner, earlier, next⟩ | ⟨inner, isFirst, isRest⟩
  · exact .inr ⟨inner, earlier, next⟩
  · rcases inner with _ | ⟨other, rest⟩
    · exact .inr ⟨[], by simpa using isFirst.symm, isRest.symm⟩
    · cases isRest
      exact .inl ⟨rest, isFirst⟩

theorem Reports.andThen {first : Evaluation α} {second : α → Evaluation β}
    (firstReports : first.Reports clock) (secondReports : ∀ value, (second value).Reports clock) :
    (first.andThen second).Reports clock := by
  constructor
  case ends =>
    intro before earlier later call fault calls fails
    cases outcome : (first before).outcome with
    | error cause =>
      rw [andThen_of_error outcome] at calls ⊢
      rcases firstReports.ends calls fails with ⟨isLast, isFault⟩
      cases outcome.symm.trans isFault
      exact ⟨isLast, rfl⟩
    | ok value =>
      rw [andThen_of_ok outcome] at calls ⊢
      -- A call that goes wrong in the first part would have kept the second from being reached.
      rcases split_of_append_eq calls with ⟨inner, firstCalls⟩ | ⟨inner, isEarlier, nextCalls⟩
      · rcases firstReports.ends firstCalls fails with ⟨_, isFault⟩
        cases outcome.symm.trans isFault
      · rw [isEarlier, List.length_append, ← Nat.add_assoc] at fails
        exact (secondReports value).ends nextCalls fails
  case blames =>
    intro before fault fails
    cases outcome : (first before).outcome with
    | error cause =>
      rw [andThen_of_error outcome] at fails ⊢
      cases fails
      exact firstReports.blames outcome
    | ok value =>
      rw [andThen_of_ok outcome] at fails ⊢
      rcases (secondReports value).blames fails with finds | ⟨earlier, call, calls, failed⟩
      · exact .inl finds
      · refine .inr ⟨(first before).calls ++ earlier, call, ?_, ?_⟩
        · rw [calls, List.append_assoc]
        · rwa [List.length_append, ← Nat.add_assoc]

theorem Reports.map {first : Evaluation α} (reports : first.Reports clock) (change : α → β) :
    (first.map change).Reports clock := by
  rw [map_eq_andThen]
  exact reports.andThen fun value => reports_done (change value)

theorem reports_call (clock : Clock) (function : Function) (arguments : List Value) :
    (call clock function arguments).Reports clock := by
  constructor
  case ends =>
    intro before earlier later other fault calls fails
    rcases earlier with _ | ⟨first, rest⟩
    · cases calls
      exact ⟨rfl, answer_eq_error_iff.mpr fails⟩
    · simp [call] at calls
  case blames =>
    exact fun fails => .inr ⟨[], _, rfl, answer_eq_error_iff.mp fails⟩

theorem reports_expectBool (value : Value) : (expectBool value).Reports clock := by
  unfold expectBool
  split
  case h_1 => exact reports_done _
  case h_2 other =>
    refine reports_ofOutcome ?_
    rintro _ ⟨⟩
    exact .notBoolean other

end Evaluation

/-! ## Conditions -/

namespace Node

open Evaluation

variable (setting : Setting)

theorem reports_compare (relation : Relation) (dependent target : Value) :
    (compare setting relation dependent target).Reports setting.clock := by
  refine reports_ofOutcome fun fault fails => ?_
  cases compared : dependent.compare relation setting.caseSensitive target with
  | ok holds =>
    rw [compared] at fails
    cases fails
  | error cause =>
    rw [compared] at fails
    cases fails
    exact .comparisonFailed compared

theorem reports_test {node : Node} (reports : (node.value setting).Reports setting.clock) :
    (test setting node).Reports setting.clock :=
  reports.andThen reports_expectBool

mutual
theorem reports_value : (node : Node) → (node.value setting).Reports setting.clock
  | .constant _ => reports_done _
  | .field _ => reports_done _
  | .call function arguments =>
    (reports_values arguments).andThen fun values => reports_call _ function values
  | .not operand => (reports_test setting (reports_value operand)).map _
  | .and left right =>
    (reports_test setting (reports_value left)).andThen fun holds =>
      match holds with
      | true => (reports_test setting (reports_value right)).map _
      | false => reports_done _
  | .or left right =>
    (reports_test setting (reports_value left)).andThen fun holds =>
      match holds with
      | true => reports_done _
      | false => (reports_test setting (reports_value right)).map _
  | .relational relation left right =>
    (reports_value left).andThen fun dependent =>
      (reports_value right).andThen fun target => reports_compare setting relation dependent target

theorem reports_values : (nodes : List Node) → (values setting nodes).Reports setting.clock
  | [] => reports_done _
  | node :: rest =>
    (reports_value node).andThen fun _ => (reports_values rest).map _
end

end Node

def Run.reported {α : Type} (run : Run α) : Except Fault α :=
  run.outcome.mapError .evaluation

/-- What becomes of faults where a predicate judges a record. All are told as faults of an
evaluation. A call that goes wrong, whatever fault its function states, is the last one and decides
what is told. A predicate that comes to a fault was given a record of another type, or found the
fault itself, or its last call went wrong. -/
structure Predicate.Reports (predicate : Predicate) (clock : Clock) (record : Record) : Prop where
  category : ∀ fault, (predicate.evaluate clock record).reported = .error fault →
    fault.code = "COND:EVAL" ∧ fault.isCompileTime = false
  ends : ∀ earlier call later fault,
    (predicate.evaluate clock record).calls = earlier ++ call :: later →
      call.Fails (clock.moment earlier.length) fault →
        later = [] ∧ (predicate.evaluate clock record).reported = .error (.evaluation fault)
  blames : ∀ fault, (predicate.evaluate clock record).reported = .error (.evaluation fault) →
    record.type.id ≠ predicate.context.id ∧
        fault = .wrongRecord predicate.context.name record.type.name ∨
      Evaluation.Finds fault ∨
      ∃ earlier call, (predicate.evaluate clock record).calls = earlier ++ [call] ∧
        call.Fails (clock.moment earlier.length) fault

theorem Run.reported_eq_error_iff {α : Type} {run : Run α} {fault : Fault} :
    run.reported = .error fault ↔
      ∃ cause, run.outcome = .error cause ∧ fault = .evaluation cause := by
  rw [reported]
  constructor
  case mp =>
    intro fails
    cases outcome : run.outcome with
    | ok value =>
      rw [outcome] at fails
      cases fails
    | error cause =>
      rw [outcome] at fails
      cases fails
      exact ⟨cause, rfl, rfl⟩
  case mpr =>
    rintro ⟨cause, fails, rfl⟩
    rw [fails]
    rfl

theorem Predicate.reports (predicate : Predicate) (clock : Clock) (record : Record) :
    predicate.Reports clock record := by
  constructor
  case category =>
    intro fault told
    rcases Run.reported_eq_error_iff.mp told with ⟨cause, _, rfl⟩
    exact ⟨rfl, rfl⟩
  case ends =>
    intro earlier call later fault calls fails
    unfold evaluate at calls ⊢
    split at calls
    case isTrue sameType =>
      have reports := Node.reports_test ⟨record, clock, predicate.caseSensitive⟩
        (Node.reports_value _ predicate.root)
      rw [← Nat.zero_add earlier.length] at fails
      rcases reports.ends calls fails with ⟨isLast, isFault⟩
      rw [if_pos sameType]
      exact ⟨isLast, Run.reported_eq_error_iff.mpr ⟨fault, isFault, rfl⟩⟩
    case isFalse => simp at calls
  case blames =>
    intro fault told
    rcases Run.reported_eq_error_iff.mp told with ⟨cause, isFault, same⟩
    cases same
    unfold evaluate at isFault ⊢
    split at isFault
    case isTrue sameType =>
      have reports := Node.reports_test ⟨record, clock, predicate.caseSensitive⟩
        (Node.reports_value _ predicate.root)
      rw [if_pos sameType]
      have blamed := reports.blames isFault
      simp only [Nat.zero_add] at blamed
      exact .inr blamed
    case isFalse otherType =>
      cases isFault
      exact .inl ⟨otherType, rfl⟩

end Proviso
