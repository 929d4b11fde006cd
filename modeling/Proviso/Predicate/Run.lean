import Proviso.Function.Basic

/-!
Evaluations and what they come to: an outcome, together with the function calls made on the
way, in their order and with the arguments as the functions got them. Every call takes place at
a moment of its own, so an evaluation goes by the number of calls that were made before it.
-/

namespace Proviso

structure Call where
  function : Function
  arguments : List Value

/-- The moments at which the calls of an evaluation take place, by their number. -/
structure Clock where
  moment : Nat → Calendar.Moment

def Clock.stopped (moment : Calendar.Moment) : Clock :=
  ⟨fun _ => moment⟩

instance : Coe Calendar.Moment Clock := ⟨Clock.stopped⟩

structure Run (α : Type) where
  calls : List Call
  outcome : Except EvaluationFault α

/-- What is still to be evaluated after a number of calls. -/
abbrev Evaluation (α : Type) := Nat → Run α

namespace Evaluation

def ofOutcome {α : Type} (outcome : Except EvaluationFault α) : Evaluation α :=
  fun _ => ⟨[], outcome⟩

def done {α : Type} (value : α) : Evaluation α :=
  ofOutcome (.ok value)

def andThen {α β : Type} (first : Evaluation α) (second : α → Evaluation β) : Evaluation β :=
  fun before =>
    let run := first before
    match run.outcome with
    | .ok value =>
      let next := second value (before + run.calls.length)
      ⟨run.calls ++ next.calls, next.outcome⟩
    | .error fault => ⟨run.calls, .error fault⟩

def map {α β : Type} (change : α → β) (first : Evaluation α) : Evaluation β :=
  fun before => ⟨(first before).calls, (first before).outcome.map change⟩

theorem andThen_of_ok {α β : Type} {first : Evaluation α} {second : α → Evaluation β}
    {before : Nat} {value : α} (succeeds : (first before).outcome = .ok value) :
    first.andThen second before =
      ⟨(first before).calls ++ (second value (before + (first before).calls.length)).calls,
        (second value (before + (first before).calls.length)).outcome⟩ := by
  simp only [andThen, succeeds]

theorem andThen_of_error {α β : Type} {first : Evaluation α} {second : α → Evaluation β}
    {before : Nat} {fault : EvaluationFault} (fails : (first before).outcome = .error fault) :
    first.andThen second before = ⟨(first before).calls, .error fault⟩ := by
  simp only [andThen, fails]

@[simp] theorem done_andThen {α β : Type} (value : α) (second : α → Evaluation β) :
    (done value).andThen second = second value := by
  funext before
  simp [done, ofOutcome, andThen]

@[simp] theorem andThen_done {α : Type} (first : Evaluation α) : first.andThen done = first := by
  funext before
  rcases run : first before with ⟨calls, outcome⟩
  cases outcome <;> simp [andThen, done, ofOutcome, run]

theorem andThen_assoc {α β γ : Type} (first : Evaluation α) (second : α → Evaluation β)
    (third : β → Evaluation γ) :
    (first.andThen second).andThen third =
      first.andThen fun value => (second value).andThen third := by
  funext before
  rcases run : first before with ⟨calls, outcome⟩
  cases outcome with
  | error fault => simp [andThen, run]
  | ok value =>
    cases result : (second value (before + calls.length)).outcome <;>
      simp [andThen, run, result, Nat.add_assoc]

theorem map_eq_andThen {α β : Type} (change : α → β) (first : Evaluation α) :
    first.map change = first.andThen fun value => done (change value) := by
  funext before
  rcases run : first before with ⟨calls, outcome⟩
  cases outcome <;> simp [map, andThen, done, ofOutcome, Except.map, run]

def expectBool (value : Value) : Evaluation Bool :=
  match value with
  | .bool value => done value
  | value => ofOutcome (.error (.notBoolean value.kind))

/-! ## Calls -/

def faultOfCall (function : Function) (cause : Fault) : EvaluationFault :=
  match cause with
  | .evaluation cause => cause
  | cause => .functionFailed function.name cause

/-- What a function answers; a whole number is widened if doubles are declared, and an answer
outside the declared type is a fault. -/
def answer (function : Function) (now : Calendar.Moment) (arguments : List Value) :
    Except EvaluationFault Value :=
  match function.invoke now arguments with
  | .error cause => .error (faultOfCall function cause)
  | .ok result =>
    let result := result.widenTo function.signature.returns
    if function.signature.returns.admits result then .ok result
    else .error (.wrongResult function.name result.kind function.signature.returns)

def call (clock : Clock) (function : Function) (arguments : List Value) : Evaluation Value :=
  fun before =>
    ⟨[⟨function, function.passed arguments⟩], answer function (clock.moment before) arguments⟩

end Evaluation

end Proviso
