import Proviso.Proofs.Condition.Direct
import Proviso.Proofs.Function.Registry
import Proviso.Proofs.Grammar.Transfer

/-!
Conditions in scopes that are extended. Enumerations that are added behind the others take no name
away from them, and functions that are registered later take no call away from one that fits as
well. So a condition keeps its tree, unless a new function fits one of its calls better.
-/

namespace Proviso

open Outcome

/-- Whether a function, if it is registered, is preferred to another one of its name for arguments
of some types. -/
def Function.Undercuts (function other : Function) (types : List Ty) : Prop :=
  function.name = other.name ∧ ∃ cost ∈ function.signature.matchCost types,
    ∃ least ∈ other.signature.matchCost types, cost < least

instance (function other : Function) (types : List Ty) :
    Decidable (function.Undercuts other types) :=
  inferInstanceAs (Decidable (_ ∧ _))

/-! ## Registrations -/

namespace Library

def registerAll (library : Library) (functions : List Function) : Except Fault Library :=
  functions.foldlM register library

theorem functions_of_registerAll {library extended : Library} {functions : List Function}
    (registered : library.registerAll functions = .ok extended) :
    extended.functions = library.functions ++ functions := by
  induction functions generalizing library with
  | nil =>
    cases registered
    exact (List.append_nil _).symm
  | cons function rest induction =>
    rcases bind_eq_ok.mp registered with ⟨next, first, others⟩
    rw [induction others, functions_of_register first, List.append_assoc]
    rfl

theorem foldl_better_of_least {types : List Ty} {least : Nat} {chosen : Function}
    {functions : List Function}
    (isLeast : ∀ function ∈ functions, ∀ cost ∈ function.signature.matchCost types, least ≤ cost) :
    functions.foldl (better types) (some (least, chosen)) = some (least, chosen) := by
  induction functions with
  | nil => rfl
  | cons function rest induction =>
    rw [List.forall_mem_cons] at isLeast
    have stays : better types (some (least, chosen)) function = some (least, chosen) := by
      cases costs : function.signature.matchCost types with
      | none => simp only [better, costs]
      | some cost => simp only [better, costs, if_neg (Nat.not_lt.mpr (isLeast.1 cost costs))]
    rw [List.foldl_cons, stays, induction isLeast.2]

/-- A call means the same function in a library that has more of them, unless one of the new ones
is preferred. -/
theorem resolve_of_append {library extended : Library} {added : List Function}
    (grown : extended.functions = library.functions ++ added) {name : String} {types : List Ty}
    {function : Function} (resolved : library.resolve name types = some function)
    (steady : ∀ other ∈ added, ¬ other.Undercuts function types) :
    extended.resolve name types = some function := by
  have isNamed := name_of_resolve resolved
  rcases Option.map_eq_some_iff.mp resolved with ⟨⟨least, chosen⟩, isChosen, rfl⟩
  have initially : ∀ best ∈ (none : Option (Nat × Function)),
      best.2.signature.matchCost types = some best.1 := nofun
  have costs := costs_of_foldl_better initially isChosen
  -- A new function would have to cost less; to cost as much is not enough, as it comes later.
  have isLeast : ∀ other ∈ added.filter (·.name == name),
      ∀ cost ∈ other.signature.matchCost types, least ≤ cost := by
    intro other member cost otherCosts
    rcases List.mem_filter.mp member with ⟨isAdded, sameName⟩
    have same : other.name = chosen.name := (beq_iff_eq.mp sameName).trans isNamed.symm
    by_contra cheaper
    exact steady other isAdded ⟨same, cost, otherCosts, least, costs, Nat.lt_of_not_le cheaper⟩
  rw [resolve, overloads, grown, List.filter_append, List.foldl_append, ← overloads, isChosen,
    foldl_better_of_least isLeast]
  rfl

end Library

/-! ## Enumerations -/

theorem Scope.enumMember?_of_append {scope : Scope} {path : String} {value : EnumValue}
    (found : scope.enumMember? path = some value) (added : List EnumType) :
    { scope with enums := scope.enums ++ added }.enumMember? path = some value := by
  unfold enumMember? at found ⊢
  split at found
  case h_1 =>
    dsimp only
    rw [List.filter_append, List.findSome?_append, found]
    rfl
  case h_2 => cases found

/-! ## Conditions -/

/-- A condition keeps its tree where enumerations are added at the end, and where functions are
registered of which none is preferred for one of its calls. -/
theorem Expr.ofTokens_extended {scope : Scope} {tokens : List Token} {expr : Expr}
    (read : ofTokens scope tokens = .ok expr) :
    (∀ added, ofTokens { scope with enums := scope.enums ++ added } tokens = .ok expr) ∧
      ∀ functions library, scope.library.registerAll functions = .ok library →
        (∀ called arguments span, .call called arguments span ∈ expr.parts →
          ∀ function ∈ functions, ¬ function.Undercuts called (arguments.map (·.type))) →
        ofTokens { scope with library } tokens = .ok expr := by
  rcases Grammar.ofTokens_eq_ok_iff.mp read with ⟨phrase, spelled, depth, means, isBool⟩
  constructor
  case left =>
    intro added
    refine Grammar.ofTokens_eq_ok_iff.mpr ⟨phrase, spelled, depth, ?_, isBool⟩
    exact means.transfer (fun _ _ _ named => named.transfer rfl fun _ found =>
      Scope.enumMember?_of_append found added) means.keepsCalls
  case right =>
    intro functions library registered steady
    have grown := Library.functions_of_registerAll registered
    refine Grammar.ofTokens_eq_ok_iff.mpr ⟨phrase, spelled, depth, ?_, isBool⟩
    refine means.transfer (fun _ _ _ named => named.transfer rfl fun _ found => found) ?_
    exact fun called arguments span member => Library.resolve_of_append grown
      (means.keepsCalls _ _ _ member) (steady called arguments span member)

/-- Two more functions of the name that is called among `people`, of which one accepts an integer
as well as the first one does. -/
def Library.furtherLimits : List Function :=
  [.ofBody "Limit" [.int] .int fun _ => .ok (.int 21),
    ⟨"Limit", ⟨[], some .int, .int⟩, fun _ _ => .ok (.int 21)⟩]

theorem Expr.ofTokens_extended_people :
    ∃ expr, ofTokens .people Scope.peopleTokens = .ok expr ∧
      ofTokens { Scope.people with enums := [⟨"Home", [("City", 1)], by decide⟩] }
        Scope.peopleTokens = .ok expr ∧
      ∃ library, Scope.people.library.registerAll Library.furtherLimits = .ok library ∧
        ofTokens { Scope.people with library } Scope.peopleTokens = .ok expr := by
  have accepts : (ofTokens .people Scope.peopleTokens).toOption.any (fun expr =>
      expr.parts.all fun
        | .call called arguments _ => Library.furtherLimits.all fun function =>
            !decide (function.Undercuts called (arguments.map (·.type)))
        | _ => true) = true := by
    decide +kernel
  rcases exists_eq_ok_of_any accepts with ⟨expr, read, steady⟩
  rcases ofTokens_extended read with ⟨amongEnums, amongFunctions⟩
  refine ⟨expr, read, amongEnums _, _, rfl, amongFunctions Library.furtherLimits _ rfl ?_⟩
  intro called arguments span member function isNew
  have unaffected := List.all_eq_true.mp (List.all_eq_true.mp steady _ member) function isNew
  simpa using unaffected

end Proviso
