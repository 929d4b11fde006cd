/-!
Outcomes that are either a value or a fault: how a value comes out of steps that can fail, which
faults come of them, what holds of both, and when two of them are the same.
-/

namespace Proviso.Outcome

variable {Fault α β : Type}

@[simp] theorem bind_eq_ok {first : Except Fault α} {second : α → Except Fault β} {result : β} :
    first >>= second = .ok result ↔ ∃ value, first = .ok value ∧ second value = .ok result := by
  cases first <;> simp [bind, Except.bind]

@[simp] theorem map_eq_ok {change : α → β} {outcome : Except Fault α} {result : β} :
    outcome.map change = .ok result ↔ ∃ value, outcome = .ok value ∧ change value = result := by
  cases outcome <;> simp [Except.map]

@[simp] theorem mapError_eq_ok {Cause : Type} {change : Cause → Fault} {outcome : Except Cause α}
    {result : α} : outcome.mapError change = .ok result ↔ outcome = .ok result := by
  cases outcome with
  | ok value => constructor <;> (rintro ⟨⟩; rfl)
  | error cause => constructor <;> rintro ⟨⟩

@[simp] theorem pure_eq_ok {value result : α} :
    (pure value : Except Fault α) = .ok result ↔ value = result := by
  simp [pure, Except.pure]

theorem ite_eq_ok_congr {condition : Prop} [Decidable condition]
    {first second other another : Except Fault α} {result : α}
    (whenTrue : first = .ok result ↔ other = .ok result)
    (whenFalse : second = .ok result ↔ another = .ok result) :
    (if condition then first else second) = .ok result ↔
      (if condition then other else another) = .ok result := by
  split
  · exact whenTrue
  · exact whenFalse

theorem exists_eq_ok_of_any {outcome : Except Fault α} {check : α → Bool}
    (checked : outcome.toOption.any check = true) :
    ∃ value, outcome = .ok value ∧ check value = true := by
  cases outcome with
  | ok value => exact ⟨value, rfl, checked⟩
  | error fault => cases checked

def fault? : Except Fault α → Option Fault
  | .ok _ => none
  | .error fault => some fault

theorem exists_eq_error_of_any {outcome : Except Fault α} {check : Fault → Bool}
    (checked : (fault? outcome).any check = true) :
    ∃ fault, outcome = .error fault ∧ check fault = true := by
  cases outcome with
  | ok value => cases checked
  | error fault => exact ⟨fault, rfl, checked⟩

/-! ## Faults -/

def FailsOnly (allowed : Fault → Prop) (outcome : Except Fault α) : Prop :=
  ∀ fault, outcome = .error fault → allowed fault

section

variable {allowed : Fault → Prop}

theorem failsOnly_ok (value : α) : FailsOnly allowed (.ok value : Except Fault α) :=
  nofun

theorem failsOnly_error {fault : Fault} (isAllowed : allowed fault) :
    FailsOnly allowed (.error fault : Except Fault α) := by
  rintro _ ⟨⟩
  exact isAllowed

theorem FailsOnly.imp {other : Fault → Prop} {outcome : Except Fault α}
    (fails : FailsOnly allowed outcome) (implied : ∀ fault, allowed fault → other fault) :
    FailsOnly other outcome :=
  fun fault isFault => implied fault (fails fault isFault)

theorem FailsOnly.bind {first : Except Fault α} {second : α → Except Fault β}
    (firstFails : FailsOnly allowed first)
    (secondFails : ∀ value, FailsOnly allowed (second value)) :
    FailsOnly allowed (first >>= second) := by
  cases first with
  | error fault => exact failsOnly_error (firstFails fault rfl)
  | ok value => exact secondFails value

end

/-! ## Values and faults -/

def Meets (good : α → Prop) (allowed : Fault → Prop) : Except Fault α → Prop
  | .ok value => good value
  | .error fault => allowed fault

section

variable {good : α → Prop} {better : β → Prop} {allowed : Fault → Prop}

theorem Meets.bind {first : Except Fault α} {second : α → Except Fault β}
    (firstMeets : Meets good allowed first)
    (secondMeets : ∀ value, good value → Meets better allowed (second value)) :
    Meets better allowed (first >>= second) := by
  cases first with
  | error fault => exact firstMeets
  | ok value => exact secondMeets value firstMeets

theorem Meets.map {outcome : Except Fault α} {change : α → β} (meets : Meets good allowed outcome)
    (keeps : ∀ value, good value → better (change value)) :
    Meets better allowed (outcome.map change) := by
  cases outcome with
  | error fault => exact meets
  | ok value => exact keeps value meets

theorem Meets.failsOnly {outcome : Except Fault α} (meets : Meets good allowed outcome) :
    FailsOnly allowed outcome := by
  cases outcome with
  | error fault => exact failsOnly_error meets
  | ok value => exact failsOnly_ok value

end

/-! ## Two outcomes -/

/-- Whether a second outcome is the same as a first one, unless that is one of certain faults. -/
def SameUnless (cut : Fault → Prop) (first second : Except Fault α) : Prop :=
  (∃ fault, cut fault ∧ first = .error fault) ∨ second = first

section

variable {cut : Fault → Prop}

theorem SameUnless.refl (outcome : Except Fault α) : SameUnless cut outcome outcome :=
  .inr rfl

theorem SameUnless.bind {first other : Except Fault α} {second another : α → Except Fault β}
    (firstSame : SameUnless cut first other)
    (secondSame : ∀ value, SameUnless cut (second value) (another value)) :
    SameUnless cut (first >>= second) (other >>= another) := by
  rcases firstSame with ⟨fault, isCut, rfl⟩ | rfl
  · exact .inl ⟨fault, isCut, rfl⟩
  · cases other with
    | error fault => exact .refl _
    | ok value => exact secondSame value

end

end Proviso.Outcome
