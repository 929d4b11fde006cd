import Proviso.Pattern.Search

/-!
What a search does not look at. A way through an automaton goes beyond a character only by a step
that takes it. So where no way accepts behind a character or takes the one after it, a text that
goes on with the two is searched as if it ended in front of them.
-/

namespace Proviso

def State.opens : State → List Nat
  | .branch first second => [first, second]
  | .check _ next => [next]
  | _ => []

/-- The states that a state leads to without taking a character. An assertion is passed where it
holds. -/
def State.ways (holds : Assertion → Bool) : State → List Nat
  | .branch first second => [first, second]
  | .check condition next => if holds condition then [next] else []
  | _ => []

/-- The threads with a further one, which stays at its place unless its state is a branch. -/
def State.noting (thread : Thread) (threads : List Thread) : State → List Thread
  | .branch _ _ => threads
  | _ => thread :: threads

theorem State.mem_opens_of_mem_ways {holds : Assertion → Bool} {state : State} {next : Nat}
    (member : next ∈ state.ways holds) : next ∈ state.opens := by
  cases state with
  | check condition =>
    rw [ways] at member
    split at member
    · exact member
    · cases member
  | _ => exact member

theorem State.ways_mono {holds other : Assertion → Bool}
    (implied : ∀ condition, holds condition = true → other condition = true) {state : State}
    {next : Nat} (member : next ∈ state.ways holds) : next ∈ state.ways other := by
  cases state with
  | check condition =>
    simp only [ways] at member ⊢
    split at member
    case isTrue passed => rwa [if_pos (implied condition passed)]
    case isFalse => cases member
  | _ => exact member

theorem State.noting_subset (thread : Thread) (threads : List Thread) (state : State) :
    state.noting thread threads ⊆ thread :: threads := by
  cases state with
  | branch => exact List.subset_cons_self ..
  | _ => exact List.Subset.refl _

namespace Automaton

variable {automaton : Automaton} {holds : Assertion → Bool}

/-! ## Ways without a character -/

section

variable {origin fuel index : Nat} {others : List Nat} {threads : List Thread}
  {entered : Array Bool}

theorem follow_entered (isEntered : entered[index]?.getD true = true) :
    automaton.follow holds origin (fuel + 1) (index :: others) ⟨threads, entered⟩ =
      automaton.follow holds origin fuel others ⟨threads, entered⟩ := by
  rw [follow, if_pos isEntered]

theorem follow_fresh {state : State} (fresh : ¬ entered[index]?.getD true = true)
    (found : automaton.states[index]? = some state) :
    automaton.follow holds origin (fuel + 1) (index :: others) ⟨threads, entered⟩ =
      automaton.follow holds origin fuel (state.ways holds ++ others)
        ⟨state.noting ⟨index, origin⟩ threads, entered.setIfInBounds index true⟩ := by
  rw [follow, if_neg fresh]
  simp only [found]
  cases state with
  | check condition next =>
    dsimp only [State.ways]
    cases holds condition <;> rfl
  | _ => rfl

theorem follow_missing (fresh : ¬ entered[index]?.getD true = true)
    (missing : automaton.states[index]? = none) :
    automaton.follow holds origin (fuel + 1) (index :: others) ⟨threads, entered⟩ =
      automaton.follow holds origin fuel others
        ⟨⟨index, origin⟩ :: threads, entered.setIfInBounds index true⟩ := by
  rw [follow, if_neg fresh]
  simp only [missing]

end

section

variable {property : Thread → Prop}
  (onward : ∀ thread, property thread → ∀ state, automaton.states[thread.state]? = some state →
    ∀ next ∈ state.ways holds, property ⟨next, thread.origin⟩)

include onward

/-- What holds of threads and stays true on every way without a character holds of all threads at a
place. -/
theorem follow_forall (origin fuel : Nat) {indices : List Nat} {reached : Reached}
    (begins : ∀ index ∈ indices, property ⟨index, origin⟩)
    (earlier : ∀ thread ∈ reached.threads, property thread) :
    ∀ thread ∈ (automaton.follow holds origin fuel indices reached).threads, property thread := by
  induction fuel generalizing indices reached with
  | zero => exact earlier
  | succ fuel induction =>
    cases indices with
    | nil => exact earlier
    | cons index others =>
      rcases reached with ⟨threads, entered⟩
      rw [List.forall_mem_cons] at begins
      have noted : ∀ thread ∈ (⟨index, origin⟩ :: threads : List Thread), property thread :=
        List.forall_mem_cons.mpr ⟨begins.1, earlier⟩
      by_cases isEntered : entered[index]?.getD true = true
      case pos =>
        rw [follow_entered isEntered]
        exact induction begins.2 earlier
      case neg =>
        cases found : automaton.states[index]? with
        | none =>
          rw [follow_missing isEntered found]
          exact induction begins.2 noted
        | some state =>
          rw [follow_fresh isEntered found]
          refine induction (fun next member => ?_) fun thread member =>
            noted thread (state.noting_subset _ _ member)
          rcases List.mem_append.mp member with member | member
          · exact onward ⟨index, origin⟩ begins.1 state found next member
          · exact begins.2 next member

theorem spread_forall {threads : List Thread} (begins : ∀ thread ∈ threads, property thread) :
    ∀ thread ∈ automaton.spread holds threads, property thread := by
  have fold (reached : Reached) (earlier : ∀ thread ∈ reached.threads, property thread) :
      ∀ thread ∈ (threads.foldl (fun reached thread =>
        automaton.follow holds thread.origin (2 * automaton.states.size + 2) [thread.state] reached)
        reached).threads, property thread := by
    induction threads generalizing reached with
    | nil => exact earlier
    | cons thread others induction =>
      rw [List.forall_mem_cons] at begins
      refine induction begins.2 _ (follow_forall onward _ _ ?_ earlier)
      exact List.forall_mem_singleton.mpr begins.1
  intro thread member
  exact fold ⟨[], _⟩ nofun thread (List.mem_reverse.mp member)

end

theorem threadsAt_forall {before after : Option Char} {property : Thread → Prop}
    (onward : ∀ thread, property thread → ∀ state, automaton.states[thread.state]? = some state →
      ∀ next ∈ state.ways (·.holds before after), property ⟨next, thread.origin⟩) (delayed : Bool)
    {threads : List Thread} (begins : ∀ thread ∈ threads, property thread) :
    ∀ thread ∈ automaton.threadsAt delayed before after threads, property thread := by
  have known : ∀ thread, property thread → ∀ state, automaton.states[thread.state]? = some state →
      ∀ next ∈ state.ways (·.holdsBehind before), property ⟨next, thread.origin⟩ :=
    fun thread has state found next member => onward thread has state found next
      (State.ways_mono (fun _ isKnown => Assertion.holds_of_holdsBehind isKnown after) member)
  unfold threadsAt
  split
  case isTrue =>
    have early := spread_forall known begins
    dsimp only
    split
    case isTrue => exact spread_forall onward early
    case isFalse => exact early
  case isFalse => exact spread_forall onward begins

/-! ## Ways within a set of states -/

def Encloses (automaton : Automaton) (states : List Nat) : Prop :=
  ∀ index ∈ states, ∀ state, automaton.states[index]? = some state →
    ∀ next ∈ state.opens, next ∈ states

def Within (states : List Nat) (threads : List Thread) : Prop :=
  ∀ thread ∈ threads, thread.state ∈ states

theorem within_nil (states : List Nat) : Within states [] :=
  List.forall_mem_nil _

theorem Encloses.onward {states : List Nat} (encloses : automaton.Encloses states) (thread : Thread)
    (inside : thread.state ∈ states) (state : State)
    (found : automaton.states[thread.state]? = some state) (next : Nat)
    (member : next ∈ state.ways holds) : next ∈ states :=
  encloses _ inside state found next (State.mem_opens_of_mem_ways member)

theorem threadsAt_within {states : List Nat} (encloses : automaton.Encloses states) (delayed : Bool)
    (before after : Option Char) {threads : List Thread} (within : Within states threads) :
    Within states (automaton.threadsAt delayed before after threads) :=
  threadsAt_forall encloses.onward delayed within

/-! ## Assertions -/

def Asks (automaton : Automaton) (condition : Assertion) : Prop :=
  ∃ next, State.check condition next ∈ automaton.states

theorem follow_congr {holds other : Assertion → Bool}
    (alike : ∀ condition, automaton.Asks condition → holds condition = other condition)
    (origin fuel : Nat) (indices : List Nat) (reached : Reached) :
    automaton.follow holds origin fuel indices reached =
      automaton.follow other origin fuel indices reached := by
  induction fuel generalizing indices reached with
  | zero => rfl
  | succ fuel induction =>
    cases indices with
    | nil => rfl
    | cons index others =>
      rw [follow, follow]
      simp only [induction]
      split
      case isTrue => rfl
      case isFalse =>
        split
        case h_1 => rfl
        case h_2 condition next found => rw [alike condition ⟨next, Array.mem_of_getElem? found⟩]
        case h_3 => rfl

theorem spread_congr {holds other : Assertion → Bool}
    (alike : ∀ condition, automaton.Asks condition → holds condition = other condition)
    (threads : List Thread) : automaton.spread holds threads = automaton.spread other threads := by
  simp only [spread, follow_congr alike]

theorem threadsAt_congr {before after other : Option Char}
    (alike : ∀ condition : Assertion, automaton.Asks condition →
      condition.holds before after = condition.holds before other)
    (delayed : Bool) (threads : List Thread) :
    automaton.threadsAt delayed before after threads =
      automaton.threadsAt delayed before other threads := by
  have released : automaton.isReleased before after = automaton.isReleased before other := by
    funext thread
    unfold isReleased
    split
    case h_1 condition next found => rw [alike condition ⟨next, Array.mem_of_getElem? found⟩]
    case h_2 => rfl
  simp only [threadsAt, released, spread_congr alike]

/-! ## Steps -/

theorem isAccepting_iff {thread : Thread} :
    automaton.isAccepting thread = true ↔ automaton.states[thread.state]? = some .accept := by
  unfold isAccepting
  split
  case h_1 found => simp [found]
  case h_2 other => exact iff_of_false nofun other

theorem advance_eq_some {char : Char} {thread onward : Thread}
    (advanced : automaton.advance char thread = some onward) :
    ∃ set, automaton.states[thread.state]? = some (.step set onward.state) ∧
      set.contains char = true := by
  unfold advance at advanced
  split at advanced
  case h_1 set next found =>
    split at advanced
    case isTrue takes =>
      cases advanced
      exact ⟨set, found, takes⟩
    case isFalse => cases advanced
  case h_2 => cases advanced

def accepted? (automaton : Automaton) (position : Nat) (threads : List Thread) : Option Match :=
  (threads.find? automaton.isAccepting).map fun thread => ⟨thread.origin, position⟩

/-- The threads behind a character, of those that are preferred to an accepting one. -/
def onward (automaton : Automaton) (char : Char) (threads : List Thread) : List Thread :=
  (threads.takeWhile fun thread => !automaton.isAccepting thread).filterMap (automaton.advance char)

section

variable {thread : Thread} {set : CharClass} {next : Nat}
  (state : automaton.states[thread.state]? = some (.step set next))

include state

theorem advance_of_step (char : Char) :
    automaton.advance char thread =
      if set.contains char then some ⟨next, thread.origin⟩ else none := by
  rw [advance, state]

theorem isAccepting_of_step : automaton.isAccepting thread = false := by
  rw [isAccepting, state]

theorem onward_cons_step (char : Char) (threads : List Thread) :
    automaton.onward char (thread :: threads) =
      if set.contains char then ⟨next, thread.origin⟩ :: automaton.onward char threads
      else automaton.onward char threads := by
  rw [onward, List.takeWhile_cons, isAccepting_of_step state]
  simp only [Bool.not_false, if_true, List.filterMap_cons, advance_of_step state]
  cases set.contains char <;> rfl

theorem accepted?_cons_step (position : Nat) (threads : List Thread) :
    automaton.accepted? position (thread :: threads) = automaton.accepted? position threads := by
  rw [accepted?, List.find?_cons, isAccepting_of_step state, accepted?]

end

theorem onward_within {states : List Nat} {char : Char} {threads : List Thread}
    (enters : ∀ thread ∈ threads, ∀ set next,
      automaton.states[thread.state]? = some (.step set next) → set.contains char = true →
        next ∈ states) : Within states (automaton.onward char threads) := by
  intro thread member
  rcases List.mem_filterMap.mp member with ⟨source, living, advanced⟩
  rcases advance_eq_some advanced with ⟨set, state, takes⟩
  exact enters source ((List.takeWhile_prefix _).subset living) set _ state takes

def starting (automaton : Automaton) (position : Nat) (found : Option Match) : List Thread :=
  if found.isNone && !automaton.anchored then [⟨automaton.entry, position + 1⟩] else []

section

variable {delayed : Bool} {position : Nat} {before : Option Char} {threads : List Thread}
  {found : Option Match}

theorem searchFrom_nil :
    automaton.searchFrom delayed position before threads found [] =
      some (automaton.accepted? position (automaton.threadsAt delayed before none threads) <|>
        found) := by
  rw [searchFrom]
  rfl

theorem searchFrom_cons (char : Char) (rest : List Char) :
    automaton.searchFrom delayed position before threads found (char :: rest) =
      let opened := automaton.threadsAt delayed before (some char) threads
      let accepted := automaton.accepted? position opened
      let onward := automaton.onward char opened ++ automaton.starting position (accepted <|> found)
      if delayed && 0x80 ≤ char.toNat && automaton.asksForWords then none
      else if onward.isEmpty && accepted.isNone then some (accepted <|> found)
      else automaton.searchFrom delayed (position + 1) (some char) onward (accepted <|> found)
        rest := by
  rw [searchFrom.eq_def]
  rfl

theorem searchFrom_cons_of_anchored (anchored : automaton.anchored = true) (char : Char)
    (rest : List Char) :
    automaton.searchFrom delayed position before threads found (char :: rest) =
      let opened := automaton.threadsAt delayed before (some char) threads
      let accepted := automaton.accepted? position opened
      let onward := automaton.onward char opened
      if delayed && 0x80 ≤ char.toNat && automaton.asksForWords then none
      else if onward.isEmpty && accepted.isNone then some (accepted <|> found)
      else automaton.searchFrom delayed (position + 1) (some char) onward (accepted <|> found)
        rest := by
  simp only [searchFrom_cons, starting, anchored, Bool.not_true, Bool.and_false, Bool.false_eq_true,
    if_false, List.append_nil]

end

/-! ## Ends of matches -/

theorem stop_le_of_accepted {position length : Nat} {opened : List Thread} {found : Option Match}
    (earlier : ∀ other ∈ found, other.stop ≤ position + length) :
    ∀ latest ∈ (automaton.accepted? position opened <|> found),
      latest.stop ≤ position + length := by
  intro latest isLatest
  rw [accepted?] at isLatest
  cases accepted : opened.find? automaton.isAccepting with
  | none =>
    rw [accepted] at isLatest
    exact earlier latest isLatest
  | some thread =>
    rw [accepted] at isLatest
    cases isLatest
    exact Nat.le_add_right ..

theorem searchFrom_stop_le {delayed : Bool} {position : Nat} {before : Option Char}
    {threads : List Thread} {found : Option Match} {text : List Char} {result : Match}
    (searched : automaton.searchFrom delayed position before threads found text =
      some (some result))
    (earlier : ∀ other ∈ found, other.stop ≤ position + text.length) :
    result.stop ≤ position + text.length := by
  induction text generalizing position before threads found with
  | nil =>
    rw [searchFrom_nil] at searched
    exact stop_le_of_accepted earlier result (Option.some.inj searched)
  | cons char rest induction =>
    rw [searchFrom_cons] at searched
    dsimp only at searched
    split at searched
    case isTrue => cases searched
    case isFalse =>
      split at searched
      case isTrue => exact stop_le_of_accepted earlier result (Option.some.inj searched)
      case isFalse =>
        have length : position + (char :: rest).length = position + 1 + rest.length := by
          rw [List.length_cons]
          omega
        rw [length] at earlier ⊢
        refine induction searched fun latest isLatest => ?_
        rw [← length] at earlier ⊢
        exact stop_le_of_accepted earlier latest isLatest

/-- What is found is found by a search with delay or by one without. -/
theorem exists_searchFrom_of_find? {text : List Char} {found : Match}
    (isFound : automaton.find? text = some found) :
    ∃ delayed, automaton.searchFrom delayed 0 none [⟨automaton.entry, 0⟩] none text =
      some (some found) := by
  rw [find?, Option.join_eq_some_iff] at isFound
  dsimp only at isFound
  cases quick : automaton.searchFrom true 0 none [⟨automaton.entry, 0⟩] none text with
  | none =>
    rw [quick] at isFound
    exact ⟨false, isFound⟩
  | some result =>
    rw [quick] at isFound
    cases isFound
    exact ⟨true, quick⟩

theorem find?_stop_le {text : List Char} {found : Match}
    (isFound : automaton.find? text = some found) : found.stop ≤ text.length := by
  rcases exists_searchFrom_of_find? isFound with ⟨delayed, searched⟩
  have within := searchFrom_stop_le searched nofun
  rwa [Nat.zero_add] at within

theorem accepted_eq_or (position : Nat) (opened : List Thread) (found : Option Match) :
    (automaton.accepted? position opened <|> found) = found ∨
      ∃ latest, (automaton.accepted? position opened <|> found) = some latest ∧
        position ≤ latest.stop := by
  rw [accepted?]
  cases opened.find? automaton.isAccepting with
  | none => exact .inl rfl
  | some thread => exact .inr ⟨_, rfl, Nat.le_refl _⟩

theorem le_stop_of_searchFrom {delayed : Bool} {position : Nat} {before : Option Char}
    {threads : List Thread} {found result : Option Match} {text : List Char}
    (searched : automaton.searchFrom delayed position before threads found text = some result) :
    result = found ∨ ∃ latest, result = some latest ∧ position ≤ latest.stop := by
  induction text generalizing position before threads found with
  | nil =>
    rw [searchFrom_nil] at searched
    exact Option.some.inj searched ▸ accepted_eq_or ..
  | cons char rest induction =>
    rw [searchFrom_cons] at searched
    dsimp only at searched
    split at searched
    case isTrue => cases searched
    case isFalse =>
      split at searched
      case isTrue => exact Option.some.inj searched ▸ accepted_eq_or ..
      case isFalse =>
        rcases induction searched with same | ⟨latest, isLatest, later⟩
        · exact same ▸ accepted_eq_or ..
        · exact .inr ⟨latest, isLatest, Nat.le_of_succ_le later⟩

/-! ## Texts that go on -/

/-- Whether a search with delay gives up at a character. -/
def QuitsAt (automaton : Automaton) (char : Char) : Prop :=
  0x80 ≤ char.toNat ∧ automaton.asksForWords = true

theorem not_quits {char : Char} (persists : ¬ automaton.QuitsAt char) (delayed : Bool) :
    ¬ (delayed && 0x80 ≤ char.toNat && automaton.asksForWords) = true := by
  simp only [Bool.and_eq_true, decide_eq_true_eq]
  exact fun quits => persists ⟨quits.1.2, quits.2⟩

/-- That no way ends or goes on in a set of states, whatever comes next. -/
structure DeadEnd (automaton : Automaton) (states : List Nat) (next : Option Char) : Prop where
  encloses : automaton.Encloses states
  noAccept : ∀ index ∈ states, automaton.states[index]? ≠ some .accept
  noStep : ∀ index ∈ states, ∀ set onward, automaton.states[index]? = some (.step set onward) →
    ∀ char ∈ next, set.contains char = false

theorem DeadEnd.accepted?_eq_none {states : List Nat} {next : Option Char}
    (dead : automaton.DeadEnd states next) (delayed : Bool) (position : Nat)
    (before after : Option Char) {threads : List Thread} (within : Within states threads) :
    automaton.accepted? position (automaton.threadsAt delayed before after threads) = none := by
  rw [accepted?, Option.map_eq_none_iff, List.find?_eq_none]
  intro thread member accepts
  have inside := threadsAt_within dead.encloses delayed before after within thread member
  exact dead.noAccept _ inside (isAccepting_iff.mp accepts)

theorem DeadEnd.searchFrom_eq {states : List Nat} {text : List Char}
    (dead : automaton.DeadEnd states text.head?) (anchored : automaton.anchored = true)
    (persists : ∀ char ∈ text.head?, ¬ automaton.QuitsAt char) (delayed : Bool) (position : Nat)
    (before : Option Char) {threads : List Thread} (within : Within states threads)
    (found : Option Match) :
    automaton.searchFrom delayed position before threads found text = some found := by
  have nothing (after : Option Char) :=
    dead.accepted?_eq_none delayed position before after within
  cases text with
  | nil =>
    rw [searchFrom_nil, nothing]
    rfl
  | cons char rest =>
    have stuck : automaton.onward char (automaton.threadsAt delayed before (some char) threads) =
        [] := by
      have within : Within [] (automaton.onward char
          (automaton.threadsAt delayed before (some char) threads)) := by
        refine onward_within fun thread member set next state takes => ?_
        have inside :=
          threadsAt_within dead.encloses delayed before (some char) within thread member
        rw [dead.noStep _ inside set next state char rfl] at takes
        cases takes
      exact List.eq_nil_iff_forall_not_mem.mpr fun thread member => nomatch within thread member
    rw [searchFrom_cons_of_anchored anchored, if_neg (not_quits (persists char rfl) delayed)]
    simp [stuck, nothing]

/-- Whether the ways of an automaton stop where a text goes on with a character, and then with the
next one. -/
structure StopsAt (automaton : Automaton) (char : Char) (next : Option Char) : Prop where
  anchored : automaton.anchored = true
  persists : ∀ other, other = char ∨ other ∈ next → ¬ automaton.QuitsAt other
  ignored : ∀ condition : Assertion, automaton.Asks condition → ∀ before,
    condition.holds before (some char) = condition.holds before none
  deadEnd : ∃ states, automaton.DeadEnd states next ∧
    ∀ set onward, State.step set onward ∈ automaton.states → set.contains char = true →
      onward ∈ states

theorem StopsAt.searchFrom_append {char : Char} {rest : List Char}
    (stops : automaton.StopsAt char rest.head?) (delayed : Bool) (position : Nat)
    (before : Option Char) (threads : List Thread) (found : Option Match) (text : List Char) :
    automaton.searchFrom delayed position before threads found (text ++ char :: rest) =
      automaton.searchFrom delayed position before threads found text := by
  induction text generalizing position before threads found with
  | nil =>
    rcases stops.deadEnd with ⟨states, dead, enters⟩
    -- Nothing asks whether the text goes on, and no thread gets behind the next character.
    have same : automaton.threadsAt delayed before (some char) threads =
        automaton.threadsAt delayed before none threads :=
      threadsAt_congr (fun condition asks => stops.ignored condition asks before) delayed threads
    have within : Within states
        (automaton.onward char (automaton.threadsAt delayed before none threads)) :=
      onward_within fun thread _ set next state takes =>
        enters set next (Array.mem_of_getElem? state) takes
    have onward := dead.searchFrom_eq stops.anchored
      (fun other isNext => stops.persists other (.inr isNext)) delayed (position + 1) (some char)
      within
    rw [List.nil_append, searchFrom_cons_of_anchored stops.anchored, searchFrom_nil,
      if_neg (not_quits (stops.persists char (.inl rfl)) delayed)]
    simp [same, onward]
  | cons first rest induction =>
    rw [List.cons_append, searchFrom_cons_of_anchored stops.anchored,
      searchFrom_cons_of_anchored stops.anchored]
    simp only [induction]

theorem StopsAt.find?_append {char : Char} {rest : List Char}
    (stops : automaton.StopsAt char rest.head?) (text : List Char) :
    automaton.find? (text ++ char :: rest) = automaton.find? text := by
  simp only [find?, stops.searchFrom_append]

/-! ## Checks -/

end Automaton

def Assertion.ignores (char : Char) : Assertion → Bool
  | .textStart | .noWordBefore _ => true
  | .textEnd | .lineStart _ | .lineEnd _ => false
  | .wordBoundary ascii | .noWordBoundary ascii | .wordStart ascii | .wordEnd ascii
  | .noWordAfter ascii => !isWordAt ascii (some char)

theorem Assertion.holds_of_ignores {condition : Assertion} {char : Char}
    (ignores : condition.ignores char = true) (before : Option Char) :
    condition.holds before (some char) = condition.holds before none := by
  have noWord (ascii : Bool) (plain : (!isWordAt ascii (some char)) = true) :
      isWordAt ascii (some char) = isWordAt ascii none :=
    Bool.eq_false_iff.mpr (by simpa using plain)
  cases condition with
  | textStart | noWordBefore ascii => rfl
  | textEnd | lineStart _ | lineEnd _ => cases ignores
  | wordBoundary ascii | noWordBoundary ascii | wordStart ascii | wordEnd ascii
  | noWordAfter ascii =>
    simp only [holds, noWord ascii ignores]

namespace Automaton

variable {automaton : Automaton}

def entered (automaton : Automaton) (char : Char) : List Nat :=
  automaton.states.toList.filterMap fun
    | .step set next => if set.contains char then some next else none
    | _ => none

theorem mem_entered {char : Char} {set : CharClass} {onward : Nat}
    (member : State.step set onward ∈ automaton.states) (takes : set.contains char = true) :
    onward ∈ automaton.entered char :=
  List.mem_filterMap.mpr ⟨_, Array.mem_toList_iff.mpr member, if_pos takes⟩

def opened (automaton : Automaton) : Nat → List Nat → List Nat
  | 0, states => states
  | rounds + 1, states =>
    let more := states.flatMap fun index => (automaton.states[index]?.map State.opens).getD []
    automaton.opened rounds (states ++ more.filter fun index => !states.contains index)

def isDeadEnd (automaton : Automaton) (states : List Nat) (next : Option Char) : Bool :=
  states.all fun index =>
    match automaton.states[index]? with
    | some .accept => false
    | some (.step set _) => next.all fun char => !set.contains char
    | some state => state.opens.all states.contains
    | none => true

def stopsAt (automaton : Automaton) (char : Char) (next : Option Char) : Bool :=
  let states := automaton.opened automaton.states.size (automaton.entered char)
  automaton.anchored &&
    (char :: next.toList).all (fun other => other.toNat < 0x80 || !automaton.asksForWords) &&
    automaton.states.all (fun
      | .check condition _ => condition.ignores char
      | _ => true) &&
    (automaton.entered char).all states.contains && automaton.isDeadEnd states next

/-- Whether a character is taken nowhere, and nothing behind it matters. -/
def ignoresAll (automaton : Automaton) (char : Char) : Bool :=
  automaton.anchored && !automaton.asksForWords &&
    automaton.states.all (fun
      | .check condition _ => condition.ignores char
      | _ => true) &&
    (automaton.entered char).isEmpty

theorem deadEnd_of_isDeadEnd {states : List Nat} {next : Option Char}
    (checked : automaton.isDeadEnd states next = true) : automaton.DeadEnd states next := by
  have each := List.all_eq_true.mp checked
  constructor
  case encloses =>
    intro index member state found onward opens
    have fine := each index member
    rw [found] at fine
    cases state with
    | accept => cases opens
    | step set next => cases opens
    | check condition next | branch first second =>
      exact List.contains_iff_mem.mp (List.all_eq_true.mp fine onward opens)
  case noAccept =>
    intro index member found
    have fine := each index member
    rw [found] at fine
    cases fine
  case noStep =>
    intro index member set onward found char isNext
    have fine := each index member
    rw [found, isNext] at fine
    simpa using fine

theorem holds_of_all_ignore {char : Char}
    (ignored : automaton.states.all (fun
      | .check condition _ => condition.ignores char
      | _ => true) = true) (condition : Assertion) (asks : automaton.Asks condition)
    (before : Option Char) : condition.holds before (some char) = condition.holds before none := by
  rcases asks with ⟨next, member⟩
  have fine := Array.all_eq_true_iff_forall_mem.mp ignored _ member
  exact Assertion.holds_of_ignores fine before

theorem stopsAt_of_check {char : Char} {next : Option Char}
    (checked : automaton.stopsAt char next = true) : automaton.StopsAt char next := by
  simp only [stopsAt, Bool.and_eq_true] at checked
  rcases checked with ⟨⟨⟨⟨anchored, ascii⟩, ignored⟩, inside⟩, dead⟩
  refine ⟨anchored, fun other member quits => ?_, holds_of_all_ignore ignored, _,
    deadEnd_of_isDeadEnd dead, fun set onward member takes => ?_⟩
  · have among : other ∈ char :: next.toList := by
      rcases member with rfl | isNext
      · exact List.mem_cons_self ..
      · exact List.mem_cons_of_mem _ (Option.mem_toList.mpr isNext)
    have fine := List.all_eq_true.mp ascii other among
    simp [quits.2, Nat.not_lt.mpr quits.1] at fine
  · have fine := List.all_eq_true.mp inside onward (mem_entered member takes)
    exact List.contains_iff_mem.mp fine

theorem stopsAt_of_ignoresAll {char : Char} (checked : automaton.ignoresAll char = true)
    (next : Option Char) : automaton.StopsAt char next := by
  simp only [ignoresAll, Bool.and_eq_true] at checked
  rcases checked with ⟨⟨⟨anchored, noWords⟩, ignored⟩, nowhere⟩
  refine ⟨anchored, fun other _ quits => ?_, holds_of_all_ignore ignored, [],
    ⟨nofun, nofun, nofun⟩, fun set onward member takes => ?_⟩
  · simp [quits.2] at noWords
  · rw [List.isEmpty_iff] at nowhere
    rw [← nowhere]
    exact mem_entered member takes

def refuses (automaton : Automaton) (char : Char) : Bool :=
  automaton.anchored && (char.toNat < 0x80 || !automaton.asksForWords) &&
    [true, false].all fun delayed =>
      let opened := automaton.threadsAt delayed none (some char) [⟨automaton.entry, 0⟩]
      (automaton.accepted? 0 opened).isNone && (automaton.onward char opened).isEmpty

theorem find?_of_searchFrom {text : List Char} {found : Option Match}
    (searched : ∀ delayed,
      automaton.searchFrom delayed 0 none [⟨automaton.entry, 0⟩] none text = some found) :
    automaton.find? text = found := by
  simp only [find?, searched]
  rfl

theorem find?_eq_none_of_refuses {char : Char} (refuses : automaton.refuses char = true)
    (rest : List Char) : automaton.find? (char :: rest) = none := by
  simp only [Automaton.refuses, Bool.and_eq_true] at refuses
  rcases refuses with ⟨⟨anchored, ascii⟩, stuck⟩
  have persists : ¬ automaton.QuitsAt char := by
    intro quits
    simp [quits.2, Nat.not_lt.mpr quits.1] at ascii
  refine find?_of_searchFrom fun delayed => ?_
  have stuck := List.all_eq_true.mp stuck delayed (by cases delayed <;> simp)
  rw [Bool.and_eq_true] at stuck
  rw [searchFrom_cons_of_anchored anchored, if_neg (not_quits persists delayed)]
  simp [stuck, Option.isNone_iff_eq_none.mp stuck.1]

/-! ## Places inside a text -/

structure IsBound (automaton : Automaton) : Prop where
  anchored : automaton.anchored = true
  asks : ∀ condition : Assertion, automaton.Asks condition → condition = .textStart

theorem isBound_of_all (anchored : automaton.anchored = true)
    (states : automaton.states.all (fun
      | .check condition _ => condition == .textStart
      | _ => true) = true) : automaton.IsBound where
  anchored := anchored
  asks := by
    rintro condition ⟨next, member⟩
    exact beq_iff_eq.mp (Array.all_eq_true_iff_forall_mem.mp states _ member)

namespace IsBound

variable (bound : automaton.IsBound)

include bound

theorem not_quitsAt (char : Char) : ¬ automaton.QuitsAt char := by
  rintro ⟨_, asksForWords⟩
  rw [Automaton.asksForWords, Array.any_eq_true'] at asksForWords
  rcases asksForWords with ⟨state, member, asks⟩
  cases state with
  | check condition next =>
    rcases bound.asks condition ⟨next, member⟩ with rfl
    cases asks
  | accept | step | branch => cases asks

theorem threadsAt_eq (delayed : Bool) (before after : Option Char) (threads : List Thread) :
    automaton.threadsAt delayed before after threads =
      automaton.spread (fun _ => before.isNone) threads := by
  have behind : automaton.spread (·.holdsBehind before) threads =
      automaton.spread (fun _ => before.isNone) threads :=
    spread_congr (fun condition asks => by rw [bound.asks condition asks]; rfl) threads
  have both : automaton.spread (·.holds before after) threads =
      automaton.spread (fun _ => before.isNone) threads :=
    spread_congr (fun condition asks => by rw [bound.asks condition asks]; rfl) threads
  have waiting (threads : List Thread) :
      ¬ threads.any (automaton.isReleased before after) = true := by
    rw [List.any_eq_true]
    rintro ⟨thread, _, released⟩
    unfold isReleased at released
    split at released
    case h_1 condition next found =>
      rw [bound.asks condition ⟨next, Array.mem_of_getElem? found⟩] at released
      cases before <;> simp [Assertion.holds, Assertion.holdsBehind] at released
    case h_2 => cases released
  rw [threadsAt, behind, both, if_neg (waiting _), ite_self]

theorem searchFrom_cons {threads opened : List Thread}
    (spread : automaton.spread (fun _ => false) threads = opened) (delayed : Bool) (position : Nat)
    (before : Char) (found : Option Match) (char : Char) (rest : List Char) :
    automaton.searchFrom delayed position (some before) threads found (char :: rest) =
      let accepted := automaton.accepted? position opened
      let onward := automaton.onward char opened
      if onward.isEmpty && accepted.isNone then some (accepted <|> found)
      else automaton.searchFrom delayed (position + 1) (some char) onward (accepted <|> found)
        rest := by
  rw [Automaton.searchFrom_cons_of_anchored bound.anchored,
    if_neg (not_quits (bound.not_quitsAt char) delayed), bound.threadsAt_eq, Option.isNone_some,
    spread]

theorem searchFrom_nil {threads opened : List Thread}
    (spread : automaton.spread (fun _ => false) threads = opened) (delayed : Bool) (position : Nat)
    (before : Char) (found : Option Match) :
    automaton.searchFrom delayed position (some before) threads found [] =
      some (automaton.accepted? position opened <|> found) := by
  rw [Automaton.searchFrom_nil, bound.threadsAt_eq, Option.isNone_some, spread]

theorem searchFrom_start {threads opened : List Thread}
    (spread : automaton.spread (fun _ => true) threads = opened)
    (notEmpty : automaton.accepted? 0 opened = none) (delayed : Bool) (char : Char)
    (rest : List Char) :
    automaton.searchFrom delayed 0 none threads none (char :: rest) =
      let onward := automaton.onward char opened
      if onward.isEmpty then some none
      else automaton.searchFrom delayed 1 (some char) onward none rest := by
  rw [Automaton.searchFrom_cons_of_anchored bound.anchored,
    if_neg (not_quits (bound.not_quitsAt char) delayed), bound.threadsAt_eq, Option.isNone_none,
    spread, notEmpty]
  simp

theorem searchFrom_no_threads (delayed : Bool) (position : Nat) (before : Option Char)
    (found : Option Match) (text : List Char) :
    automaton.searchFrom delayed position before [] found text = some found := by
  have dead : automaton.DeadEnd [] text.head? := ⟨nofun, nofun, nofun⟩
  exact dead.searchFrom_eq bound.anchored (fun char _ => bound.not_quitsAt char) delayed position
    before (within_nil _) found

theorem find?_cons {opened threads : List Thread} {char : Char} {rest : List Char}
    {found : Option Match}
    (spread : automaton.spread (fun _ => true) [⟨automaton.entry, 0⟩] = opened)
    (notEmpty : automaton.accepted? 0 opened = none)
    (onward : automaton.onward char opened = threads)
    (behind : ∀ delayed, automaton.searchFrom delayed 1 (some char) threads none rest =
      some found) : automaton.find? (char :: rest) = found := by
  refine Automaton.find?_of_searchFrom fun delayed => ?_
  rw [bound.searchFrom_start spread notEmpty, onward]
  cases threads with
  | nil => rw [← behind delayed, bound.searchFrom_no_threads]; rfl
  | cons thread threads => exact behind delayed

/-- A text whose characters do not lead out of a set of states is of no use where the set is a dead
end behind it. -/
theorem find?_append_of_stays {states : List Nat} {text rest : List Char}
    (begins : automaton.entry ∈ states) (dead : automaton.DeadEnd states rest.head?)
    (stays : ∀ char ∈ text, ∀ index ∈ states, ∀ set next,
      automaton.states[index]? = some (.step set next) → set.contains char = true →
        next ∈ states) : automaton.find? (text ++ rest) = none := by
  have searched (delayed : Bool) (position : Nat) (before : Option Char) (threads : List Thread)
      (within : Within states threads) :
      automaton.searchFrom delayed position before threads none (text ++ rest) = some none := by
    induction text generalizing position before threads with
    | nil =>
      exact dead.searchFrom_eq bound.anchored (fun char _ => bound.not_quitsAt char) delayed
        position before within none
    | cons char text induction =>
      rw [List.forall_mem_cons] at stays
      have opened := threadsAt_within dead.encloses delayed before (some char) within
      have onward : Within states
          (automaton.onward char (automaton.threadsAt delayed before (some char) threads)) :=
        onward_within fun thread member set next state takes =>
          stays.1 _ (opened thread member) set next state takes
      rw [List.cons_append, Automaton.searchFrom_cons_of_anchored bound.anchored,
        if_neg (not_quits (bound.not_quitsAt char) delayed)]
      simp only [dead.accepted?_eq_none delayed position before (some char) within]
      split
      case isTrue => rfl
      case isFalse => exact induction stays.2 _ _ _ onward
  exact find?_of_searchFrom fun delayed =>
    searched delayed 0 none _ (List.forall_mem_singleton.mpr begins)

theorem exists_searchFrom_eq (position : Nat) (before : Option Char) (threads : List Thread)
    (found : Option Match) (text : List Char) :
    ∃ result, ∀ delayed,
      automaton.searchFrom delayed position before threads found text = some result := by
  induction text generalizing position before threads found with
  | nil =>
    let opened := automaton.spread (fun _ => before.isNone) threads
    refine ⟨automaton.accepted? position opened <|> found, fun delayed => ?_⟩
    rw [Automaton.searchFrom_nil, bound.threadsAt_eq]
  | cons char rest induction =>
    let opened := automaton.spread (fun _ => before.isNone) threads
    let accepted := automaton.accepted? position opened
    let onward := automaton.onward char opened
    rcases induction (position + 1) (some char) onward (accepted <|> found) with ⟨result, searched⟩
    refine ⟨if onward.isEmpty && accepted.isNone then accepted <|> found else result,
      fun delayed => ?_⟩
    rw [Automaton.searchFrom_cons_of_anchored bound.anchored,
      if_neg (not_quits (bound.not_quitsAt char) delayed), bound.threadsAt_eq, apply_ite some,
      ← searched delayed]

theorem searchFrom_eq_find? (delayed : Bool) (text : List Char) :
    automaton.searchFrom delayed 0 none [⟨automaton.entry, 0⟩] none text =
      some (automaton.find? text) := by
  rcases bound.exists_searchFrom_eq 0 none [⟨automaton.entry, 0⟩] none text with ⟨result, searched⟩
  rw [searched delayed, find?_of_searchFrom searched]

/-- What is found within the first part of a text is found in that part alone. -/
theorem searchFrom_of_append {delayed : Bool} {position : Nat} {before : Option Char}
    {threads : List Thread} {found result : Option Match} {text rest : List Char}
    (searched : automaton.searchFrom delayed position before threads found (text ++ rest) =
      some result)
    (within : ∀ latest ∈ result, latest.stop ≤ position + text.length) :
    automaton.searchFrom delayed position before threads found text = some result := by
  induction text generalizing position before threads found with
  | nil =>
    cases rest with
    | nil => exact searched
    | cons char rest =>
      rw [List.nil_append, Automaton.searchFrom_cons_of_anchored bound.anchored,
        if_neg (not_quits (bound.not_quitsAt char) delayed), bound.threadsAt_eq] at searched
      rw [Automaton.searchFrom_nil, bound.threadsAt_eq]
      split at searched
      case isTrue => exact searched
      case isFalse =>
        rcases le_stop_of_searchFrom searched with same | ⟨latest, rfl, later⟩
        · exact congrArg some same.symm
        · exact absurd (within latest rfl) (Nat.not_le_of_lt later)
  | cons char text induction =>
    rw [List.cons_append, Automaton.searchFrom_cons_of_anchored bound.anchored,
      if_neg (not_quits (bound.not_quitsAt char) delayed), bound.threadsAt_eq] at searched
    rw [Automaton.searchFrom_cons_of_anchored bound.anchored,
      if_neg (not_quits (bound.not_quitsAt char) delayed), bound.threadsAt_eq]
    split at searched
    case isTrue ends => rw [if_pos ends, searched]
    case isFalse continues =>
      rw [if_neg continues]
      refine induction searched fun latest isLatest => ?_
      have bounded := within latest isLatest
      rw [List.length_cons] at bounded
      omega

theorem find?_of_append {text rest : List Char}
    (within : ∀ found ∈ automaton.find? (text ++ rest), found.stop ≤ text.length) :
    automaton.find? text = automaton.find? (text ++ rest) := by
  refine find?_of_searchFrom fun delayed => ?_
  refine bound.searchFrom_of_append (bound.searchFrom_eq_find? delayed (text ++ rest)) ?_
  rwa [Nat.zero_add]

end IsBound

end Automaton

end Proviso
