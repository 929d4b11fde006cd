import Proviso.Proofs.Function.Arguments

/-!
Libraries as registries. No two functions of one name take the same parameters, a registration
that is refused changes nothing and another one adds to the functions of its name at the end, and a
call means the earliest of the functions that cost least.
-/

namespace Proviso

open Outcome

/-! ## Costs -/

namespace Signature

variable {signature : Signature}

theorem conversionCost_eq_zero_iff {parameter argument : Ty} :
    conversionCost parameter argument = some 0 ↔ parameter.agrees argument = true := by
  constructor
  · intro free
    unfold conversionCost at free
    split at free
    case isTrue agree => exact agree
    case isFalse => split at free <;> (repeat' split at free) <;> cases free
  · intro agree
    exact if_pos agree

theorem conversionCost_le {parameter argument : Ty} {cost : Nat}
    (converts : conversionCost parameter argument = some cost) : cost ≤ 2 := by
  unfold conversionCost at converts
  split at converts
  case isTrue =>
    cases converts
    omega
  case isFalse => split at converts <;> (repeat' split at converts) <;> cases converts <;> omega

def TakesCount (signature : Signature) (count : Nat) : Prop :=
  signature.parameters.length ≤ count ∧
    (signature.rest = none → count = signature.parameters.length)

theorem matchCost_eq_some_iff {types : List Ty} {cost : Nat} :
    signature.matchCost types = some cost ↔
      signature.TakesCount types.length ∧ signature.costFrom 0 types = some cost := by
  unfold matchCost TakesCount
  split
  case isTrue few =>
    simp [Nat.not_le.mpr few]
  case isFalse enough =>
    split
    case isTrue misfit =>
      simp only [Bool.and_eq_true, Option.isNone_iff_eq_none, decide_eq_true_eq] at misfit
      simp [misfit]
    case isFalse fits =>
      have exact : signature.rest = none → types.length = signature.parameters.length := by
        intro isFixed
        by_contra differs
        exact fits (by simpa [isFixed] using differs)
      exact ⟨fun costs => ⟨⟨Nat.le_of_not_lt enough, exact⟩, costs⟩, fun taken => taken.2⟩

def IsExactFor (signature : Signature) (index : Nat) (types : List Ty) : Prop :=
  ∀ place type, types[place]? = some type →
    ∃ parameter, signature.parameterAt? (index + place) = some parameter ∧
      parameter.agrees type = true

theorem isExactFor_cons {index : Nat} {type : Ty} {types : List Ty} :
    signature.IsExactFor index (type :: types) ↔
      (∃ parameter, signature.parameterAt? index = some parameter ∧
        parameter.agrees type = true) ∧ signature.IsExactFor (index + 1) types := by
  constructor
  · intro isExact
    refine ⟨isExact 0 type rfl, ?_⟩
    intro place other hasType
    have found := isExact (place + 1) other hasType
    rwa [Nat.add_left_comm, Nat.add_comm] at found
  · rintro ⟨first, others⟩ place other hasType
    cases place with
    | zero =>
      cases hasType
      exact first
    | succ place =>
      have found := others place other hasType
      rwa [Nat.add_right_comm] at found

theorem costFrom_cons_eq_some_iff {index cost : Nat} {type : Ty} {types : List Ty} :
    signature.costFrom index (type :: types) = some cost ↔
      ∃ parameter here later, signature.parameterAt? index = some parameter ∧
        conversionCost parameter type = some here ∧
          signature.costFrom (index + 1) types = some later ∧ here + later = cost := by
  rw [costFrom]
  simp [Option.bind_eq_some_iff]

theorem costFrom_le {index cost : Nat} {types : List Ty}
    (costs : signature.costFrom index types = some cost) : cost ≤ 2 * types.length := by
  induction types generalizing index cost with
  | nil =>
    cases costs
    exact Nat.zero_le _
  | cons type types induction =>
    rcases costFrom_cons_eq_some_iff.mp costs with
      ⟨parameter, here, later, _, converts, laterCosts, rfl⟩
    have hereLe := conversionCost_le converts
    have laterLe := induction laterCosts
    rw [List.length_cons]
    omega

theorem costFrom_eq_zero_iff {index cost : Nat} {types : List Ty}
    (costs : signature.costFrom index types = some cost) :
    cost = 0 ↔ signature.IsExactFor index types := by
  induction types generalizing index cost with
  | nil =>
    cases costs
    exact iff_of_true rfl nofun
  | cons type types induction =>
    rcases costFrom_cons_eq_some_iff.mp costs with
      ⟨parameter, here, later, found, converts, laterCosts, rfl⟩
    rw [isExactFor_cons, Nat.add_eq_zero_iff, induction laterCosts]
    apply and_congr_left
    intro _
    constructor
    · rintro rfl
      exact ⟨parameter, found, conversionCost_eq_zero_iff.mp converts⟩
    · rintro ⟨_, isParameter, agree⟩
      rw [found] at isParameter
      cases isParameter
      rw [conversionCost_eq_zero_iff.mpr agree] at converts
      exact (Option.some.inj converts).symm

/-! ## Parameters -/

def TakesSame (first second : Signature) : Prop :=
  List.Forall₂ (fun type other => type.agrees other = true) first.parameters second.parameters ∧
    Option.Rel (fun type other => type.agrees other = true) first.rest second.rest

theorem listAgrees_iff {types others : List Ty} :
    listAgrees types others = true ↔
      List.Forall₂ (fun type other => type.agrees other = true) types others := by
  induction types generalizing others with
  | nil => cases others <;> simp [listAgrees]
  | cons type types induction => cases others <;> simp [listAgrees, induction]

theorem restAgrees_iff {type other : Option Ty} :
    restAgrees type other = true ↔
      Option.Rel (fun type other => type.agrees other = true) type other := by
  cases type <;> cases other <;> simp [restAgrees]

theorem sameParameters_iff {first second : Signature} :
    first.sameParameters second = true ↔ first.TakesSame second := by
  rw [sameParameters, Bool.and_eq_true, listAgrees_iff, restAgrees_iff, TakesSame]

end Signature

namespace Library

variable {library next : Library} {function : Function} {name : String} {types : List Ty}

/-! ## Choices -/

/-- A function that accepts the arguments at a cost, the first one in a list that costs so little. -/
def IsFirstLeast (types : List Ty) (functions : List Function) (cost : Nat)
    (function : Function) : Prop :=
  function.signature.matchCost types = some cost ∧
    ∃ before after, functions = before ++ function :: after ∧
      (∀ other ∈ before, ∀ higher ∈ other.signature.matchCost types, cost < higher) ∧
        ∀ other ∈ after, ∀ higher ∈ other.signature.matchCost types, cost ≤ higher

/-- What a call means among functions: the first one that costs least, and none exactly if no
function accepts the arguments. -/
inductive Chooses (types : List Ty) (functions : List Function) : Option Function → Prop where
  | nothing (refuse : ∀ function ∈ functions, function.signature.matchCost types = none) :
    Chooses types functions none
  | first {function : Function} {cost : Nat}
    (isFirst : IsFirstLeast types functions cost function) : Chooses types functions (some function)

theorem IsFirstLeast.append {functions : List Function} {cost : Nat} {chosen : Function}
    (isFirst : IsFirstLeast types functions cost chosen) {function : Function}
    (notCheaper : ∀ higher ∈ function.signature.matchCost types, cost ≤ higher) :
    IsFirstLeast types (functions ++ [function]) cost chosen := by
  rcases isFirst with ⟨costs, before, after, rfl, earlier, later⟩
  refine ⟨costs, before, after ++ [function], by simp, earlier, ?_⟩
  intro other member
  rcases List.mem_append.mp member with member | member
  · exact later other member
  · rcases List.mem_singleton.mp member with rfl
    exact notCheaper

theorem IsFirstLeast.le {functions : List Function} {cost : Nat} {chosen : Function}
    (isFirst : IsFirstLeast types functions cost chosen) {other : Function}
    (member : other ∈ functions) {higher : Nat}
    (costs : other.signature.matchCost types = some higher) : cost ≤ higher := by
  rcases isFirst with ⟨chosenCosts, before, after, rfl, earlier, later⟩
  rcases List.mem_append.mp member with member | member
  · exact Nat.le_of_lt (earlier other member higher costs)
  rcases List.mem_cons.mp member with rfl | member
  · rw [chosenCosts] at costs
    exact Nat.le_of_eq (Option.some.inj costs)
  · exact later other member higher costs

def IsBest (types : List Ty) (functions : List Function) : Option (Nat × Function) → Prop
  | none => ∀ function ∈ functions, function.signature.matchCost types = none
  | some (cost, function) => IsFirstLeast types functions cost function

theorem IsBest.better {functions : List Function} {best : Option (Nat × Function)}
    (isBest : IsBest types functions best) (function : Function) :
    IsBest types (functions ++ [function]) (better types best function) := by
  cases costs : function.signature.matchCost types with
  | none =>
    cases best with
    | none =>
      simp only [Library.better, costs]
      intro other member
      rcases List.mem_append.mp member with member | member
      · exact isBest other member
      · rcases List.mem_singleton.mp member with rfl
        exact costs
    | some best =>
      simp only [Library.better, costs]
      apply IsFirstLeast.append isBest
      simp [costs]
  | some cost =>
    -- The function is the first of its cost if all in front of it cost more.
    have isNew (cheaper : ∀ other ∈ functions, ∀ higher ∈ other.signature.matchCost types,
        cost < higher) : IsFirstLeast types (functions ++ [function]) cost function :=
      ⟨costs, functions, [], rfl, cheaper, List.forall_mem_nil _⟩
    cases best with
    | none =>
      simp only [Library.better, costs]
      apply isNew
      intro other member higher isHigher
      rw [isBest other member] at isHigher
      cases isHigher
    | some best =>
      rcases best with ⟨least, chosen⟩
      simp only [Library.better, costs]
      split
      case isTrue cheaper =>
        apply isNew
        intro other member higher isHigher
        exact Nat.lt_of_lt_of_le cheaper (IsFirstLeast.le isBest member isHigher)
      case isFalse dearer =>
        apply IsFirstLeast.append isBest
        intro higher isHigher
        rw [costs] at isHigher
        cases isHigher
        exact Nat.le_of_not_lt dearer

theorem IsBest.foldl {before functions : List Function} {best : Option (Nat × Function)}
    (isBest : IsBest types before best) :
    IsBest types (before ++ functions) (functions.foldl (Library.better types) best) := by
  induction functions generalizing before best with
  | nil => rwa [List.append_nil]
  | cons function rest induction =>
    have further := induction (isBest.better function)
    rwa [List.append_assoc] at further

theorem isBest_overloads (library : Library) (name : String) (types : List Ty) :
    IsBest types (library.overloads name)
      ((library.overloads name).foldl (better types) none) := by
  have initially : IsBest types [] none := List.forall_mem_nil _
  exact initially.foldl

theorem chooses_resolve (library : Library) (name : String) (types : List Ty) :
    Chooses types (library.overloads name) (library.resolve name types) := by
  have isBest := library.isBest_overloads name types
  rw [resolve]
  cases found : (library.overloads name).foldl (better types) none with
  | none =>
    rw [found] at isBest
    exact .nothing isBest
  | some best =>
    rw [found] at isBest
    exact .first isBest

/-! ## Registrations -/

theorem functions_of_register (registered : library.register function = .ok next) :
    next.functions = library.functions ++ [function] := by
  unfold register at registered
  split at registered <;> cases registered
  rfl

theorem overloads_of_register (registered : library.register function = .ok next)
    (name : String) : next.overloads name =
      library.overloads name ++ if function.name = name then [function] else [] := by
  rw [overloads, functions_of_register registered, List.filter_append, ← overloads,
    List.filter_cons, List.filter_nil]
  by_cases same : function.name = name <;> simp [same]

/-- Whether a function would be preferred to what a call means so far. -/
def Prefers (library : Library) (function : Function) (name : String) (types : List Ty) : Prop :=
  function.name = name ∧ ∃ cost, function.signature.matchCost types = some cost ∧
    ∀ chosen, library.resolve name types = some chosen →
      ∃ least, chosen.signature.matchCost types = some least ∧ cost < least

theorem resolve_of_prefers (registered : library.register function = .ok next)
    (prefers : library.Prefers function name types) :
    next.resolve name types = some function := by
  rcases prefers with ⟨rfl, cost, costs, cheaper⟩
  rw [resolve, overloads_of_register registered, if_pos rfl, List.foldl_append]
  simp only [List.foldl_cons, List.foldl_nil]
  cases found : (library.overloads function.name).foldl (better types) none with
  | none =>
    simp only [better, costs]
    rfl
  | some best =>
    rcases best with ⟨least, chosen⟩
    rcases cheaper chosen (by rw [resolve, found]; rfl) with ⟨leastCost, leastCosts, isCheaper⟩
    have isBest := library.isBest_overloads function.name types
    rw [found] at isBest
    rw [isBest.1] at leastCosts
    cases leastCosts
    simp only [better, costs, if_pos isCheaper]
    rfl

theorem resolve_of_not_prefers (registered : library.register function = .ok next)
    (dearer : ¬ library.Prefers function name types) :
    next.resolve name types = library.resolve name types := by
  rw [resolve, resolve, overloads_of_register registered, List.foldl_append]
  split
  case isFalse => rfl
  case isTrue same =>
    simp only [List.foldl_cons, List.foldl_nil]
    cases costs : function.signature.matchCost types with
    | none => simp only [better, costs]
    | some cost =>
      cases found : (library.overloads name).foldl (better types) none with
      | none =>
        refine (dearer ⟨same, cost, costs, ?_⟩).elim
        intro chosen isChosen
        rw [resolve, found] at isChosen
        cases isChosen
      | some best =>
        rcases best with ⟨least, chosen⟩
        have isBest := library.isBest_overloads name types
        rw [found] at isBest
        have notCheaper : ¬ cost < least := by
          intro cheaper
          refine dearer ⟨same, cost, costs, ?_⟩
          intro other isOther
          rw [resolve, found] at isOther
          cases isOther
          exact ⟨least, isBest.1, cheaper⟩
        simp only [better, costs, if_neg notCheaper]

/-- The library behind an attempt to register a function; if it is refused, nothing changes. -/
def attempt (library : Library) (function : Function) : Library :=
  (library.register function).toOption.getD library

def afterAttempts (library : Library) (functions : List Function) : Library :=
  functions.foldl attempt library

/-- How a registration comes out. It is refused if a function of the name takes the same
parameters. Otherwise the function comes behind the others of its name, and becomes what a call
means exactly where it is preferred. -/
inductive Registers (library : Library) (function : Function) : Except Fault Library → Prop where
  | refused {existing : Function} (member : existing ∈ library.overloads function.name)
    (same : existing.signature.TakesSame function.signature)
    (stays : library.attempt function = library) :
    Registers library function
      (.error (.registration function.name (.sameParameters existing.signature)))
  | added {next : Library}
    (new : ∀ other ∈ library.overloads function.name,
      ¬ other.signature.TakesSame function.signature)
    (becomes : library.attempt function = next)
    (own : next.overloads function.name = library.overloads function.name ++ [function])
    (others : ∀ name, name ≠ function.name → next.overloads name = library.overloads name)
    (preferred : ∀ name types, library.Prefers function name types →
      next.resolve name types = some function)
    (otherwise : ∀ name types, ¬ library.Prefers function name types →
      next.resolve name types = library.resolve name types) :
    Registers library function (.ok next)

theorem registers (library : Library) (function : Function) :
    library.Registers function (library.register function) := by
  cases outcome : library.register function with
  | error fault =>
    have stays : library.attempt function = library := by rw [attempt, outcome]; rfl
    unfold register at outcome
    split at outcome
    case h_1 existing found =>
      cases outcome
      have matched := List.find?_some found
      exact .refused (List.mem_of_find?_eq_some found) (Signature.sameParameters_iff.mp matched) stays
    case h_2 => cases outcome
  | ok next =>
    have becomes : library.attempt function = next := by rw [attempt, outcome]; rfl
    refine .added ?_ becomes ?_ ?_ ?_ ?_
    · unfold register at outcome
      split at outcome
      case h_1 => cases outcome
      case h_2 nothing =>
        intro other member same
        have differs := List.find?_eq_none.mp nothing other member
        exact differs (Signature.sameParameters_iff.mpr same)
    · rw [overloads_of_register outcome, if_pos rfl]
    · intro name different
      rw [overloads_of_register outcome, if_neg (Ne.symm different), List.append_nil]
    · exact fun name types => resolve_of_prefers outcome
    · exact fun name types => resolve_of_not_prefers outcome

theorem overloads_prefix_attempt (library : Library) (function : Function) (name : String) :
    library.overloads name <+: (library.attempt function).overloads name := by
  rw [attempt]
  cases outcome : library.register function with
  | error fault => exact List.prefix_refl _
  | ok next =>
    change _ <+: next.overloads name
    rw [overloads_of_register outcome]
    exact List.prefix_append _ _

theorem overloads_prefix_afterAttempts (library : Library) (functions : List Function)
    (name : String) : library.overloads name <+: (library.afterAttempts functions).overloads name := by
  induction functions generalizing library with
  | nil => exact List.prefix_refl _
  | cons function rest induction =>
    exact (library.overloads_prefix_attempt function name).trans (induction _)

/-! ## Twins -/

def HasNoTwins (library : Library) : Prop :=
  library.functions.Pairwise fun first second =>
    first.name = second.name → ¬ first.signature.TakesSame second.signature

theorem hasNoTwins_empty : empty.HasNoTwins :=
  List.Pairwise.nil

theorem HasNoTwins.attempt (noTwins : library.HasNoTwins) (function : Function) :
    (library.attempt function).HasNoTwins := by
  rw [Library.attempt]
  have registers := library.registers function
  cases outcome : library.register function with
  | error fault => exact noTwins
  | ok next =>
    rw [outcome] at registers
    cases registers with
    | added new =>
      change next.HasNoTwins
      rw [HasNoTwins, functions_of_register outcome, List.pairwise_append]
      refine ⟨noTwins, List.pairwise_singleton _ _, ?_⟩
      intro other member added isFunction sameName
      rcases List.mem_singleton.mp isFunction with rfl
      exact new other (List.mem_filter.mpr ⟨member, beq_iff_eq.mpr sameName⟩)

theorem HasNoTwins.afterAttempts (noTwins : library.HasNoTwins) (functions : List Function) :
    (library.afterAttempts functions).HasNoTwins := by
  induction functions generalizing library with
  | nil => exact noTwins
  | cons function rest induction => exact induction (noTwins.attempt function)

theorem HasNoTwins.overloads (noTwins : library.HasNoTwins) (name : String) :
    (library.overloads name).Pairwise fun first second =>
      ¬ first.signature.TakesSame second.signature := by
  have among := noTwins.filter (·.name == name)
  refine among.imp_of_mem ?_
  intro first second isFirst isSecond apart
  have firstName := beq_iff_eq.mp (List.mem_filter.mp isFirst).2
  have secondName := beq_iff_eq.mp (List.mem_filter.mp isSecond).2
  exact apart (firstName.trans secondName.symm)

/-! ## Registries -/

/-- That a library is a registry of functions: they are found under their names, no two of a name
take the same parameters, a registration is refused or adds a function at the end, and a call means
the first function that costs least. A cost fits in 32 bits, and is nothing exactly where no
argument is converted. -/
structure IsRegistry (library : Library) : Prop where
  named : ∀ name, ∀ function ∈ library.overloads name, function.name = name
  distinct : ∀ name, (library.overloads name).Pairwise fun first second =>
    ¬ first.signature.TakesSame second.signature
  registers : ∀ function, library.Registers function (library.register function)
  chooses : ∀ name types, Chooses types (library.overloads name) (library.resolve name types)
  costs : ∀ name, ∀ function ∈ library.overloads name, ∀ (types : List Ty) (cost : Nat),
    function.signature.matchCost types = some cost →
      (types.length < 2 ^ 31 → cost < 2 ^ 32) ∧ (cost = 0 ↔ function.signature.IsExactFor 0 types)

theorem HasNoTwins.isRegistry (noTwins : library.HasNoTwins) : library.IsRegistry where
  named := by
    intro name function member
    exact beq_iff_eq.mp (List.mem_filter.mp member).2
  distinct := noTwins.overloads
  registers := library.registers
  chooses := library.chooses_resolve
  costs := by
    intro name function _ types cost costs
    have summed := (Signature.matchCost_eq_some_iff.mp costs).2
    refine ⟨?_, Signature.costFrom_eq_zero_iff summed⟩
    intro few
    have atMost := Signature.costFrom_le summed
    omega

end Library

end Proviso
