import Proviso.Pattern.Basic

/-!
Automata for patterns. A state takes a character, checks an assertion, or branches, its first
way being the preferred one. The states of a pattern lie side by side, from a given index on, and
lead to a given state behind the pattern.
-/

namespace Proviso

inductive State where
  | accept
  | step (set : CharClass) (next : Nat)
  | check (condition : Assertion) (next : Nat)
  | branch (first second : Nat)
  deriving DecidableEq

/-- The states of a part of a pattern, and the state where the part starts. -/
structure Fragment where
  entry : Nat
  states : List State

namespace Fragment

def branch (greedy : Bool) (inside outside : Nat) : State :=
  if greedy then .branch inside outside else .branch outside inside

def copies (build : Nat → Nat → Fragment) (width start : Nat) : Nat → Fragment → Fragment
  | 0, behind => behind
  | count + 1, behind =>
    let last := build (start + count * width) behind.entry
    copies build width start count ⟨last.entry, last.states ++ behind.states⟩

/-- A fragment that may be left out: its branch leads into it or to the end. -/
def optional (build : Nat → Nat → Fragment) (greedy : Bool) (stop start next : Nat) : Fragment :=
  let body := build (start + 1) next
  ⟨start, branch greedy body.entry stop :: body.states⟩

/-- A fragment that is taken once and then again from the branch behind it. -/
def loop (build : Nat → Nat → Fragment) (greedy : Bool) (start next : Nat) : Fragment :=
  let body := build (start + 1) start
  ⟨body.entry, branch greedy body.entry next :: body.states⟩

end Fragment

namespace Pattern

def width : Pattern → Nat
  | .empty => 0
  | .oneOf _ | .assertion _ => 1
  | .sequence first second => first.width + second.width
  | .choice first second => first.width + second.width + 1
  | .group body => body.width
  | .repeated body least (some most) _ => least * body.width + (most - least) * (body.width + 1)
  | .repeated body 0 none _ => body.width + (if body.canBeEmpty then 2 else 1)
  | .repeated body (least + 1) none _ => least * body.width + (body.width + 1)

/-- The states of a pattern from an index on, in front of the state `next`. A repetition without
an upper limit whose body can take nothing has a branch for its entry besides the one behind its
body: coming back without a character does not open the entry again. -/
def build : Pattern → Nat → Nat → Fragment
  | .empty, _, next => ⟨next, []⟩
  | .oneOf set, start, next => ⟨start, [.step set next]⟩
  | .assertion condition, start, next => ⟨start, [.check condition next]⟩
  | .sequence first second, start, next =>
    let behind := second.build (start + first.width) next
    let front := first.build start behind.entry
    ⟨front.entry, front.states ++ behind.states⟩
  | .choice first second, start, next =>
    let left := first.build (start + 1) next
    let right := second.build (start + 1 + first.width) next
    ⟨start, .branch left.entry right.entry :: (left.states ++ right.states)⟩
  | .group body, start, next => body.build start next
  | .repeated body least (some most) greedy, start, next =>
    let rest := start + least * body.width
    Fragment.copies body.build body.width start least
      (Fragment.copies (Fragment.optional body.build greedy next) (body.width + 1) rest
        (most - least) ⟨next, []⟩)
  | .repeated body 0 none greedy, start, next =>
    if body.canBeEmpty then
      let again := Fragment.loop body.build greedy (start + 1) next
      ⟨start, Fragment.branch greedy again.entry next :: again.states⟩
    else
      let again := Fragment.loop body.build greedy start next
      ⟨start, again.states⟩
  | .repeated body (least + 1) none greedy, start, next =>
    Fragment.copies body.build body.width start least
      (Fragment.loop body.build greedy (start + least * body.width) next)

theorem length_copies {build : Nat → Nat → Fragment} {width : Nat}
    (each : ∀ start next, (build start next).states.length = width) (start count : Nat)
    (behind : Fragment) :
    (Fragment.copies build width start count behind).states.length =
      count * width + behind.states.length := by
  induction count generalizing behind with
  | zero => simp [Fragment.copies]
  | succ count induction =>
    rw [Fragment.copies, induction, List.length_append, each, Nat.succ_mul]
    omega

@[simp] theorem length_build (pattern : Pattern) (start next : Nat) :
    (pattern.build start next).states.length = pattern.width := by
  induction pattern generalizing start next with
  | empty => rfl
  | oneOf set => rfl
  | assertion condition => rfl
  | sequence first second inFirst inSecond => simp [build, width, inFirst, inSecond]
  | choice first second inFirst inSecond => simp [build, width, inFirst, inSecond]
  | group body induction => simp [build, width, induction]
  | «repeated» body least most greedy induction =>
    have optional (stop start next : Nat) :
        (Fragment.optional body.build greedy stop start next).states.length = body.width + 1 := by
      simp [Fragment.optional, induction]
    have loop (start next : Nat) :
        (Fragment.loop body.build greedy start next).states.length = body.width + 1 := by
      simp [Fragment.loop, induction]
    cases most with
    | some most => simp [build, width, length_copies induction, length_copies (optional next)]
    | none =>
      cases least with
      | zero => by_cases empty : body.canBeEmpty = true <;> simp [build, width, empty, loop]
      | succ least => simp [build, width, length_copies induction, loop]

end Pattern

/-- The states of a pattern behind the accepting one. An anchored automaton can match only at the
start of a text. -/
structure Automaton where
  states : Array State
  entry : Nat
  anchored : Bool
  deriving DecidableEq

namespace Automaton

def ofPattern (pattern : Pattern) : Automaton :=
  let fragment := pattern.build 1 0
  ⟨(State.accept :: fragment.states).toArray, fragment.entry, pattern.isAnchored⟩

def asksForWords (automaton : Automaton) : Bool :=
  automaton.states.any fun
    | .check condition _ => condition.asksForWords
    | _ => false

end Automaton

end Proviso
