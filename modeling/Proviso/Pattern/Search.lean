import Proviso.Pattern.Automaton

/-!
Searching a text for a match of an automaton. All ways through the automaton are followed
together, place by place, the preferred ones first. At one place a state is entered once, by the
most preferred way: a repetition that comes back without a character ends there. When a way
reaches the accepting state, the less preferred ones are given up.
-/

namespace Proviso

/-- A match in a text, as the numbers of characters before it and up to its end. -/
structure Match where
  start : Nat
  stop : Nat

structure Thread where
  state : Nat
  origin : Nat
  deriving DecidableEq

namespace Automaton

/-! ## Places -/

/-- The ways found at a place, the last one first, and for each state whether it was entered. -/
structure Reached where
  threads : List Thread
  entered : Array Bool

/-- Follows branches and assertions that hold from the states given. Every state is opened once,
so that twice as many steps as there are states suffice. -/
def follow (automaton : Automaton) (holds : Assertion → Bool) (origin : Nat) :
    Nat → List Nat → Reached → Reached
  | 0, _, reached => reached
  | _, [], reached => reached
  | fuel + 1, index :: others, ⟨threads, entered⟩ =>
    if entered[index]?.getD true then automaton.follow holds origin fuel others ⟨threads, entered⟩
    else
      let entered := entered.setIfInBounds index true
      match automaton.states[index]? with
      | some (.branch first second) =>
        automaton.follow holds origin fuel (first :: second :: others) ⟨threads, entered⟩
      | some (.check condition next) =>
        automaton.follow holds origin fuel (if holds condition then next :: others else others)
          ⟨⟨index, origin⟩ :: threads, entered⟩
      | _ => automaton.follow holds origin fuel others ⟨⟨index, origin⟩ :: threads, entered⟩

def spread (automaton : Automaton) (holds : Assertion → Bool) (threads : List Thread) :
    List Thread :=
  let count := automaton.states.size
  let follow (reached : Reached) (thread : Thread) :=
    automaton.follow holds thread.origin (2 * count + 2) [thread.state] reached
  (threads.foldl follow ⟨[], Array.replicate count false⟩).threads.reverse

/-- Whether a thread waits at an assertion that holds, although the character before did not show
it. -/
def isReleased (automaton : Automaton) (before after : Option Char) (thread : Thread) : Bool :=
  match automaton.states[thread.state]? with
  | some (.check condition _) => condition.holds before after && !condition.holdsBehind before
  | _ => false

/-- The threads at a place. In a search with delay only the character before is known at first;
where the next one then releases some of the threads, all of them are followed again, in the order
that they have. -/
def threadsAt (automaton : Automaton) (delayed : Bool) (before after : Option Char)
    (threads : List Thread) : List Thread :=
  if delayed then
    let threads := automaton.spread (·.holdsBehind before) threads
    if threads.any (automaton.isReleased before after) then
      automaton.spread (·.holds before after) threads
    else threads
  else automaton.spread (·.holds before after) threads

def isAccepting (automaton : Automaton) (thread : Thread) : Bool :=
  match automaton.states[thread.state]? with
  | some .accept => true
  | _ => false

def advance (automaton : Automaton) (char : Char) (thread : Thread) : Option Thread :=
  match automaton.states[thread.state]? with
  | some (.step set next) => if set.contains char then some ⟨next, thread.origin⟩ else none
  | _ => none

/-! ## Searching -/

/-- Searches from a place on. A search with delay has no answer where a character beyond ASCII
meets an assertion about words. -/
def searchFrom (automaton : Automaton) (delayed : Bool) :
    Nat → Option Char → List Thread → Option Match → List Char → Option (Option Match)
  | position, before, threads, found, text =>
    let threads := automaton.threadsAt delayed before text.head? threads
    let accepted := (threads.find? automaton.isAccepting).map fun thread =>
      (⟨thread.origin, position⟩ : Match)
    let found := accepted <|> found
    match text with
    | [] => some found
    | char :: rest =>
      if delayed && 0x80 ≤ char.toNat && automaton.asksForWords then none
      else
        let living := threads.takeWhile fun thread => !automaton.isAccepting thread
        let onward := living.filterMap (automaton.advance char)
        let starting :=
          if found.isNone && !automaton.anchored then [⟨automaton.entry, position + 1⟩] else []
        let threads := onward ++ starting
        if threads.isEmpty && accepted.isNone then some found
        else automaton.searchFrom delayed (position + 1) (some char) threads found rest

def find? (automaton : Automaton) (text : List Char) : Option Match :=
  let search (delayed : Bool) :=
    automaton.searchFrom delayed 0 none [⟨automaton.entry, 0⟩] none text
  (search true <|> search false).join

def isMatch (automaton : Automaton) (text : List Char) : Bool :=
  (automaton.find? text).isSome

end Automaton

end Proviso
