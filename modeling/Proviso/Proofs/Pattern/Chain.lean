import Proviso.Proofs.Pattern.Search

/-!
Automata that read a given text from the start, by single steps and in no other way. A search then
has one thread only, which is lost where the text differs. Behind the text such an automaton
accepts, or asks first whether a word ends.
-/

namespace Proviso.Automaton

variable {automaton : Automaton}

/-! ## Answers -/

/-- Whether a search comes to an answer. One with delay may give up instead. -/
def Answers (delayed : Bool) (result : Option (Option Match)) (found : Option Match) : Prop :=
  result = some found ∨ delayed = true ∧ result = none

theorem find?_of_answers {text : List Char} {found : Option Match}
    (answers : ∀ delayed, Answers delayed
      (automaton.searchFrom delayed 0 none [⟨automaton.entry, 0⟩] none text) found) :
    automaton.find? text = found := by
  have certain : automaton.searchFrom false 0 none [⟨automaton.entry, 0⟩] none text =
      some found :=
    (answers false).resolve_right fun gaveUp => Bool.noConfusion gaveUp.1
  rcases answers true with quick | ⟨_, gaveUp⟩
  · simp only [find?, quick]
    rfl
  · simp only [find?, gaveUp, certain]
    rfl

theorem answers_of_quits {delayed : Bool} {quits : Prop} [Decidable quits]
    {result : Option (Option Match)} {found : Option Match} (only : quits → delayed = true)
    (answers : Answers delayed result found) :
    Answers delayed (if quits then none else result) found := by
  split
  case isTrue gaveUp => exact .inr ⟨only gaveUp, rfl⟩
  case isFalse => exact answers

theorem delayed_of_quits {delayed : Bool} {char : Char}
    (quits : (delayed && 0x80 ≤ char.toNat && automaton.asksForWords) = true) :
    delayed = true := by
  rw [Bool.and_eq_true, Bool.and_eq_true] at quits
  exact quits.1.1

/-! ## One thread -/

variable {state : Nat} {delayed : Bool} {position : Nat} {before after : Option Char}

theorem follow_nil (holds : Assertion → Bool) (origin fuel : Nat) (reached : Reached) :
    automaton.follow holds origin fuel [] reached = reached := by
  cases fuel <;> rfl

theorem spread_of_closed {kind : State} (found : automaton.states[state]? = some kind)
    (closed : kind.opens = []) (holds : Assertion → Bool) (origin : Nat) :
    automaton.spread holds [⟨state, origin⟩] = [⟨state, origin⟩] := by
  have inside := (Array.getElem?_eq_some_iff.mp found).1
  have fresh : (Array.replicate automaton.states.size false)[state]?.getD true = false := by
    simp [inside]
  simp only [spread, List.foldl_cons, List.foldl_nil, follow, fresh, found]
  cases kind with
  | branch => cases closed
  | check => cases closed
  | accept | step => simp

theorem spread_of_check {condition : Assertion} {next : Nat} {kind : State}
    (found : automaton.states[state]? = some (.check condition next))
    (target : automaton.states[next]? = some kind) (closed : kind.opens = [])
    (holds : Assertion → Bool) (origin : Nat) :
    automaton.spread holds [⟨state, origin⟩] =
      if holds condition then [⟨state, origin⟩, ⟨next, origin⟩] else [⟨state, origin⟩] := by
  have inside := (Array.getElem?_eq_some_iff.mp found).1
  have nextInside := (Array.getElem?_eq_some_iff.mp target).1
  have different : state ≠ next := by
    rintro rfl
    rw [found] at target
    cases target
    cases closed
  have fresh : (Array.replicate automaton.states.size false)[state]?.getD true = false := by
    simp [inside]
  have nextFresh : ((Array.replicate automaton.states.size false).setIfInBounds state
      true)[next]?.getD true = false := by
    rw [Array.getElem?_setIfInBounds_ne different]
    simp [nextInside]
  simp only [spread, List.foldl_cons, List.foldl_nil, follow, fresh, found]
  cases holds condition with
  | false => simp [follow_nil]
  | true =>
    rcases Nat.exists_eq_succ_of_ne_zero (Nat.ne_of_gt (Nat.zero_lt_of_lt inside)) with
      ⟨count, size⟩
    have fuel : 2 * automaton.states.size + 1 = 2 * count + 2 + 1 := by omega
    cases kind with
    | branch => cases closed
    | check => cases closed
    | accept | step => simp [fuel, follow, nextFresh, target]

theorem isReleased_of_closed {kind : State} (found : automaton.states[state]? = some kind)
    (closed : kind.opens = []) (before after : Option Char) (origin : Nat) :
    automaton.isReleased before after ⟨state, origin⟩ = false := by
  rw [isReleased, found]
  cases kind with
  | check => cases closed
  | _ => rfl

theorem threadsAt_of_closed {kind : State} (found : automaton.states[state]? = some kind)
    (closed : kind.opens = []) (delayed : Bool) (before after : Option Char) (origin : Nat) :
    automaton.threadsAt delayed before after [⟨state, origin⟩] = [⟨state, origin⟩] := by
  simp [threadsAt, spread_of_closed found closed, isReleased_of_closed found closed]

/-! ## Threads that ask -/

section

variable {condition : Assertion} {next : Nat}
  (asks : automaton.states[state]? = some (.check condition next))

include asks

theorem accepted?_cons_check (position origin : Nat) (threads : List Thread) :
    automaton.accepted? position (⟨state, origin⟩ :: threads) =
      automaton.accepted? position threads := by
  have notAccepting : automaton.isAccepting ⟨state, origin⟩ = false := by
    rw [isAccepting, asks]
  rw [accepted?, List.find?_cons, notAccepting, accepted?]

theorem onward_cons_check (char : Char) (origin : Nat) (threads : List Thread) :
    automaton.onward char (⟨state, origin⟩ :: threads) = automaton.onward char threads := by
  have notAccepting : automaton.isAccepting ⟨state, origin⟩ = false := by
    rw [isAccepting, asks]
  have stays : automaton.advance char ⟨state, origin⟩ = none := by
    rw [advance, asks]
  simp [onward, notAccepting, stays]

end

/-- Behind a word a thread that asks whether it ends is followed by one that accepts, unless the
word goes on. -/
theorem threadsAt_of_boundary {stop : Nat}
    (asks : automaton.states[state]? = some (.check (.wordBoundary false) stop))
    (accepts : automaton.states[stop]? = some .accept)
    (behind : Assertion.isWordAt false before = true) (delayed : Bool) (after : Option Char)
    (origin : Nat) :
    automaton.threadsAt delayed before after [⟨state, origin⟩] =
      if Assertion.isWordAt false after then [⟨state, origin⟩]
      else [⟨state, origin⟩, ⟨stop, origin⟩] := by
  have holds : (Assertion.wordBoundary false).holds before after =
      !Assertion.isWordAt false after := by
    rw [Assertion.holds, behind, Bool.true_bne]
  have released : automaton.isReleased before after ⟨state, origin⟩ =
      !Assertion.isWordAt false after := by
    rw [isReleased, asks]
    simp only [holds, Assertion.holdsBehind, Bool.not_false, Bool.and_true]
  simp only [threadsAt, spread_of_check asks accepts rfl, holds, Assertion.holdsBehind,
    Bool.false_eq_true, if_false, List.any_cons, List.any_nil, released, Bool.or_false]
  cases delayed <;> cases Assertion.isWordAt false after <;> rfl

theorem answers_no_threads (anchored : automaton.anchored = true) (delayed : Bool)
    (position : Nat) (before : Option Char) (found : Option Match) (text : List Char) :
    Answers delayed (automaton.searchFrom delayed position before [] found text) found := by
  have nowhere (after : Option Char) : automaton.threadsAt delayed before after [] = [] := by
    simp [threadsAt, spread]
  cases text with
  | nil =>
    rw [searchFrom_nil, nowhere]
    exact .inl rfl
  | cons char rest =>
    rw [searchFrom_cons_of_anchored anchored, nowhere]
    exact answers_of_quits delayed_of_quits (.inl rfl)

/-! ## Texts read by single steps -/

/-- The state behind a text that is read by single steps from a state on. -/
def readsTo? (automaton : Automaton) : Nat → List Char → Option Nat
  | state, [] => some state
  | state, char :: rest =>
    match automaton.states[state]? with
    | some (.step set next) => if set = .single char then automaton.readsTo? next rest else none
    | _ => none

theorem readsTo?_cons {char : Char} {rest : List Char} {last : Nat}
    (reads : automaton.readsTo? state (char :: rest) = some last) :
    ∃ next, automaton.states[state]? = some (.step (.single char) next) ∧
      automaton.readsTo? next rest = some last := by
  simp only [readsTo?] at reads
  split at reads
  case h_1 set next found =>
    split at reads
    case isTrue isSingle => exact ⟨next, isSingle ▸ found, reads⟩
    case isFalse => cases reads
  case h_2 => cases reads

theorem searchFrom_step (anchored : automaton.anchored = true) {char : Char} {next : Nat}
    (found : automaton.states[state]? = some (.step (.single char) next)) (delayed : Bool)
    (position : Nat) (before : Option Char) (other : Char) (rest : List Char) :
    automaton.searchFrom delayed position before [⟨state, 0⟩] none (other :: rest) =
      if delayed && 0x80 ≤ other.toNat && automaton.asksForWords then none
      else if char = other then
        automaton.searchFrom delayed (position + 1) (some other) [⟨next, 0⟩] none rest
      else some none := by
  have unmatched : automaton.accepted? position [⟨state, 0⟩] = none :=
    accepted?_cons_step found position []
  have onward : automaton.onward other [⟨state, 0⟩] = if char = other then [⟨next, 0⟩] else [] := by
    have noThread : automaton.onward other [] = [] := rfl
    have taken : automaton.onward other [⟨state, 0⟩] = _ := onward_cons_step found other []
    simpa only [CharClass.contains_single, beq_iff_eq, noThread] using taken
  rw [searchFrom_cons_of_anchored anchored, threadsAt_of_closed found rfl]
  simp only [unmatched, onward]
  by_cases same : char = other <;> simp [same]

theorem searchFrom_append (anchored : automaton.anchored = true) {chars : List Char} {last : Nat}
    (reads : automaton.readsTo? state chars = some last)
    (ascii : ∀ char ∈ chars, char.toNat < 0x80) (delayed : Bool) (position : Nat)
    (before : Option Char) (rest : List Char) :
    automaton.searchFrom delayed position before [⟨state, 0⟩] none (chars ++ rest) =
      automaton.searchFrom delayed (position + chars.length) (chars.getLast?.or before) [⟨last, 0⟩]
        none rest := by
  induction chars generalizing state position before with
  | nil =>
    cases reads
    rfl
  | cons char chars induction =>
    rcases readsTo?_cons reads with ⟨next, found, reads⟩
    rw [List.forall_mem_cons] at ascii
    have persists : ¬ (delayed && 0x80 ≤ char.toNat && automaton.asksForWords) = true := by
      simp [Nat.not_le.mpr ascii.1]
    rw [List.cons_append, searchFrom_step anchored found, if_neg persists, if_pos rfl,
      induction reads ascii.2, List.length_cons, Nat.add_assoc, Nat.add_comm 1,
      List.getLast?_cons]
    cases chars.getLast? <;> rfl

theorem answers_of_differs (anchored : automaton.anchored = true) {chars : List Char}
    {last : Nat} (reads : automaton.readsTo? state chars = some last) {text : List Char}
    (differs : ¬ chars <+: text) (delayed : Bool) (position : Nat) (before : Option Char) :
    Answers delayed (automaton.searchFrom delayed position before [⟨state, 0⟩] none text) none := by
  induction chars generalizing state text position before with
  | nil => exact absurd List.nil_prefix differs
  | cons char chars induction =>
    rcases readsTo?_cons reads with ⟨next, found, reads⟩
    cases text with
    | nil =>
      rw [searchFrom_nil, threadsAt_of_closed found rfl, accepted?_cons_step found]
      exact .inl rfl
    | cons other rest =>
      rw [searchFrom_step anchored found]
      refine answers_of_quits delayed_of_quits ?_
      split
      case isTrue same =>
        subst same
        exact induction reads (fun isPrefix => differs (List.cons_prefix_cons.mpr ⟨rfl, isPrefix⟩))
          (position + 1) (some char)
      case isFalse => exact .inl rfl

/-! ## Whole searches -/

/-- Whether an automaton is bound to the start of the text, and reads one text up to a state. -/
def readsUpTo (automaton : Automaton) (chars : List Char) (last : Nat) : Bool :=
  automaton.anchored && chars.all (·.toNat < 0x80) && !chars.isEmpty &&
    match automaton.states[automaton.entry]? with
    | some (.check .textStart first) => automaton.readsTo? first chars == some last
    | _ => false

structure ReadsUpTo (automaton : Automaton) (chars : List Char) (last : Nat) : Prop where
  anchored : automaton.anchored = true
  ascii : ∀ char ∈ chars, char.toNat < 0x80
  nonempty : chars ≠ []
  begins : ∃ first, automaton.states[automaton.entry]? = some (.check .textStart first) ∧
    automaton.readsTo? first chars = some last

theorem readsUpTo_of_check {chars : List Char} {last : Nat}
    (checked : automaton.readsUpTo chars last = true) : automaton.ReadsUpTo chars last := by
  simp only [readsUpTo, Bool.and_eq_true] at checked
  rcases checked with ⟨⟨⟨anchored, ascii⟩, nonempty⟩, begins⟩
  refine ⟨anchored, by simpa using ascii, by simpa using nonempty, ?_⟩
  split at begins
  case h_1 first found => exact ⟨first, found, beq_iff_eq.mp begins⟩
  case h_2 => cases begins

namespace ReadsUpTo

variable {chars : List Char} {last : Nat} (reads : automaton.ReadsUpTo chars last)

include reads

theorem exists_searchFrom_eq : ∃ first, automaton.readsTo? first chars = some last ∧
    ∀ (delayed : Bool) (text : List Char),
      automaton.searchFrom delayed 0 none [⟨automaton.entry, 0⟩] none text =
        automaton.searchFrom delayed 0 none [⟨first, 0⟩] none text := by
  rcases reads.begins with ⟨first, isEntry, readsTo⟩
  refine ⟨first, readsTo, fun delayed text => ?_⟩
  rcases List.exists_cons_of_ne_nil reads.nonempty with ⟨char, chars, rfl⟩
  rcases readsTo?_cons readsTo with ⟨next, isFirst, _⟩
  have waiting (after : Option Char) :
      automaton.isReleased none after ⟨automaton.entry, 0⟩ = false := by
    rw [isReleased, isEntry]
    rfl
  have opened (after : Option Char) :
      automaton.threadsAt delayed none after [⟨automaton.entry, 0⟩] =
        [⟨automaton.entry, 0⟩, ⟨first, 0⟩] := by
    simp [threadsAt, spread_of_check isEntry isFirst rfl, Assertion.holds, Assertion.holdsBehind,
      waiting, isReleased_of_closed isFirst rfl]
  cases text with
  | nil =>
    rw [searchFrom_nil, searchFrom_nil, opened, threadsAt_of_closed isFirst rfl,
      accepted?_cons_check isEntry]
  | cons other rest =>
    rw [searchFrom_cons_of_anchored reads.anchored, searchFrom_cons_of_anchored reads.anchored,
      opened, threadsAt_of_closed isFirst rfl]
    simp only [accepted?_cons_check isEntry, onward_cons_check isEntry]

theorem find?_of_differs {text : List Char} (differs : ¬ chars <+: text) :
    automaton.find? text = none := by
  rcases reads.exists_searchFrom_eq with ⟨first, readsTo, same⟩
  refine find?_of_answers fun delayed => ?_
  rw [same]
  exact answers_of_differs reads.anchored readsTo differs delayed 0 none

theorem find?_append (accepts : automaton.states[last]? = some .accept) (rest : List Char) :
    automaton.find? (chars ++ rest) = some ⟨0, chars.length⟩ := by
  rcases reads.exists_searchFrom_eq with ⟨first, readsTo, same⟩
  have accepting : automaton.isAccepting ⟨last, 0⟩ = true := isAccepting_iff.mpr accepts
  refine find?_of_answers fun delayed => ?_
  rw [same, searchFrom_append reads.anchored readsTo reads.ascii, Nat.zero_add]
  cases rest with
  | nil =>
    rw [searchFrom_nil, threadsAt_of_closed accepts rfl, accepted?, List.find?_cons, accepting]
    exact .inl rfl
  | cons char rest =>
    rw [searchFrom_cons_of_anchored reads.anchored, threadsAt_of_closed accepts rfl]
    refine answers_of_quits delayed_of_quits ?_
    simp only [accepted?, onward, List.find?_cons, List.takeWhile_cons, accepting]
    exact answers_no_threads reads.anchored ..

theorem find?_append_of_boundary {stop : Nat}
    (asks : automaton.states[last]? = some (.check (.wordBoundary false) stop))
    (accepts : automaton.states[stop]? = some .accept)
    (isWord : ∀ char ∈ chars.getLast?, Text.isWord char = true) (rest : List Char) :
    automaton.find? (chars ++ rest) =
      if Assertion.isWordAt false rest.head? then none else some ⟨0, chars.length⟩ := by
  rcases reads.exists_searchFrom_eq with ⟨first, readsTo, same⟩
  have behind : Assertion.isWordAt false (chars.getLast?.or none) = true := by
    rw [Option.or_none, List.getLast?_eq_some_getLast reads.nonempty]
    exact isWord _ (List.getLast?_eq_some_getLast reads.nonempty)
  have opened := threadsAt_of_boundary asks accepts behind
  have accepting : automaton.isAccepting ⟨stop, 0⟩ = true := isAccepting_iff.mpr accepts
  have found (position : Nat) :
      automaton.accepted? position [⟨last, 0⟩, ⟨stop, 0⟩] = some ⟨0, position⟩ := by
    rw [accepted?_cons_check asks, accepted?, List.find?_cons, accepting]
    rfl
  have onward (char : Char) : automaton.onward char [⟨last, 0⟩, ⟨stop, 0⟩] = [] := by
    rw [onward_cons_check asks, Automaton.onward, List.takeWhile_cons, accepting]
    rfl
  refine find?_of_answers fun delayed => ?_
  rw [same, searchFrom_append reads.anchored readsTo reads.ascii, Nat.zero_add]
  cases rest with
  | nil =>
    rw [searchFrom_nil, opened]
    exact .inl (congrArg (fun found => some (found <|> none)) (found chars.length))
  | cons char rest =>
    rw [searchFrom_cons_of_anchored reads.anchored]
    refine answers_of_quits delayed_of_quits ?_
    rw [List.head?_cons, opened]
    cases Assertion.isWordAt false (some char) with
    | true =>
      simp only [if_true, accepted?_cons_check asks, onward_cons_check asks]
      exact .inl rfl
    | false =>
      simp only [Bool.false_eq_true, if_false, found, onward]
      exact answers_no_threads reads.anchored ..

end ReadsUpTo

end Proviso.Automaton
