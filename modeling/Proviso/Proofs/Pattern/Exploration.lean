import Mathlib.Data.List.TakeWhile
import Proviso.Proofs.Pattern.Search
import Proviso.Proofs.Pattern.Takes

/-!
A search finds what the pattern of its automaton takes. Whatever is found was accepted along a way
through the automaton. Conversely no way is missed: at a place every state is entered that can be
reached there, so that one of the threads is on each way that accepts in the end.
-/

namespace Proviso

namespace State

theorem length_ways_le (holds : Assertion → Bool) (state : State) :
    (state.ways holds).length ≤ 2 := by
  cases state with
  | check condition =>
    rw [ways]
    split <;> simp
  | _ => simp [ways]

theorem subset_noting (thread : Thread) (threads : List Thread) (state : State) :
    threads ⊆ state.noting thread threads := by
  cases state with
  | branch => exact List.Subset.refl _
  | _ => exact List.subset_cons_self ..

theorem mem_noting {state : State} (plain : ∀ first second, state ≠ .branch first second)
    {thread : Thread} {threads : List Thread} : thread ∈ state.noting thread threads := by
  cases state with
  | branch => exact absurd rfl (plain _ _)
  | _ => exact List.mem_cons_self ..

end State

namespace Automaton

variable {automaton : Automaton} {text : List Char} {holds : Assertion → Bool}

/-! ## What is found is accepted -/

/-- Whether a thread at a place came there from the entry at the place where it began: what it
accepts is accepted from there. -/
def IsJustified (automaton : Automaton) (text : List Char) (position : Nat) (thread : Thread) :
    Prop :=
  (automaton.anchored = true → thread.origin = 0) ∧
    ∀ stop steps, automaton.Leads text stop steps thread.state position →
      ∃ more, automaton.Leads text stop more automaton.entry thread.origin

def IsAccepted (automaton : Automaton) (text : List Char) (found : Match) : Prop :=
  (automaton.anchored = true → found.start = 0) ∧
    ∃ steps, automaton.Leads text found.stop steps automaton.entry found.start

theorem leads_of_ways {stop steps position next index : Nat} {state : State}
    (found : automaton.states[index]? = some state)
    (isWay : next ∈ state.ways (·.holds (Text.before? text position) text[position]?))
    (leads : automaton.Leads text stop steps next position) :
    automaton.Leads text stop (steps + 1) index position := by
  cases state with
  | branch first second => exact .branch found (by simpa [State.ways] using isWay) leads
  | check condition target =>
    rw [State.ways] at isWay
    split at isWay
    case isTrue passed =>
      cases List.mem_singleton.mp isWay
      exact .check found passed leads
    case isFalse => cases isWay
  | _ => cases isWay

theorem threadsAt_justified {position : Nat} (delayed : Bool) {threads : List Thread}
    (justified : ∀ thread ∈ threads, automaton.IsJustified text position thread) :
    ∀ thread ∈ automaton.threadsAt delayed (Text.before? text position) text[position]? threads,
      automaton.IsJustified text position thread := by
  refine threadsAt_forall (fun thread has state found next isWay => ⟨has.1, ?_⟩) delayed justified
  exact fun stop steps leads => has.2 stop _ (leads_of_ways found isWay leads)

theorem onward_justified {position : Nat} {char : Char} {threads : List Thread}
    (isNext : text[position]? = some char)
    (justified : ∀ thread ∈ threads, automaton.IsJustified text position thread) :
    ∀ thread ∈ automaton.onward char threads, automaton.IsJustified text (position + 1) thread := by
  intro thread member
  rcases List.mem_filterMap.mp member with ⟨source, living, advanced⟩
  rcases justified source ((List.takeWhile_prefix _).subset living) with ⟨anchored, leads⟩
  rcases advance_eq_some advanced with ⟨set, state, taken⟩
  have sameOrigin : thread.origin = source.origin := by
    rw [advance, state] at advanced
    simp only [taken, if_true, Option.some.injEq] at advanced
    rw [← advanced]
  rw [IsJustified, sameOrigin]
  exact ⟨anchored, fun stop steps onward => leads stop _ (.step state isNext taken onward)⟩

theorem starting_justified {position : Nat} {found : Option Match} :
    ∀ thread ∈ automaton.starting position found,
      automaton.IsJustified text (position + 1) thread := by
  intro thread member
  rw [starting] at member
  split at member
  case isTrue free =>
    cases List.mem_singleton.mp member
    rw [Bool.and_eq_true, Bool.not_eq_true'] at free
    refine ⟨fun anchored => ?_, fun stop steps leads => ⟨steps, leads⟩⟩
    rw [free.2] at anchored
    cases anchored
  case isFalse => cases member

theorem accepted?_isAccepted {position : Nat} {threads : List Thread} {found : Option Match}
    (justified : ∀ thread ∈ threads, automaton.IsJustified text position thread)
    (earlier : ∀ other ∈ found, automaton.IsAccepted text other) :
    ∀ latest ∈ (automaton.accepted? position threads <|> found),
      automaton.IsAccepted text latest := by
  intro latest isLatest
  rw [accepted?] at isLatest
  cases accepting : threads.find? automaton.isAccepting with
  | none =>
    rw [accepting] at isLatest
    exact earlier latest isLatest
  | some thread =>
    rw [accepting] at isLatest
    cases isLatest
    rcases justified thread (List.mem_of_find?_eq_some accepting) with ⟨anchored, leads⟩
    have accepts := isAccepting_iff.mp (List.find?_some accepting)
    exact ⟨anchored, leads position 0 (.accept accepts)⟩

theorem drop_eq_cons {position : Nat} {char : Char} {rest : List Char}
    (isRest : text.drop position = char :: rest) :
    text[position]? = some char ∧ text.drop (position + 1) = rest := by
  constructor
  · rw [← List.head?_drop, isRest]
    rfl
  · rw [← List.tail_drop, isRest]
    rfl

theorem isAccepted_of_searchFrom {delayed : Bool} {position : Nat} {before : Option Char}
    {threads : List Thread} {found : Option Match} {rest : List Char} {result : Match}
    (searched : automaton.searchFrom delayed position before threads found rest =
      some (some result))
    (isRest : text.drop position = rest) (isBefore : before = Text.before? text position)
    (justified : ∀ thread ∈ threads, automaton.IsJustified text position thread)
    (earlier : ∀ other ∈ found, automaton.IsAccepted text other) :
    automaton.IsAccepted text result := by
  induction rest generalizing position before threads found with
  | nil =>
    have isEnd : text[position]? = none := by rw [← List.head?_drop, isRest, List.head?_nil]
    have opened := threadsAt_justified delayed justified
    rw [← isBefore, isEnd] at opened
    rw [searchFrom_nil, Option.some.injEq] at searched
    exact accepted?_isAccepted opened earlier result searched
  | cons char rest induction =>
    rcases drop_eq_cons isRest with ⟨isNext, isRest⟩
    have opened := threadsAt_justified delayed justified
    rw [← isBefore, isNext] at opened
    have accepted := accepted?_isAccepted opened earlier
    rw [searchFrom_cons] at searched
    dsimp only at searched
    split at searched
    case isTrue => cases searched
    case isFalse =>
      split at searched
      case isTrue => exact accepted result (Option.some.inj searched)
      case isFalse =>
        refine induction searched isRest isNext.symm ?_ accepted
        exact List.forall_mem_append.mpr ⟨onward_justified isNext opened, starting_justified⟩

theorem isAccepted_of_find? {found : Match} (isFound : automaton.find? text = some found) :
    automaton.IsAccepted text found := by
  rcases exists_searchFrom_of_find? isFound with ⟨delayed, searched⟩
  refine isAccepted_of_searchFrom searched List.drop_zero rfl ?_ nofun
  exact List.forall_mem_singleton.mpr ⟨fun _ => rfl, fun stop steps leads => ⟨steps, leads⟩⟩

/-! ## No way is missed -/

def IsEntered (entered : Array Bool) (index : Nat) : Prop :=
  entered[index]?.getD true = true

/-- What was entered at a place: with a state all those that it leads to, apart from those that are
still to be followed, and with a state that is no branch there is a thread in it. -/
structure Explores (automaton : Automaton) (holds : Assertion → Bool) (pending : List Nat)
    (reached : Reached) : Prop where
  size_eq : reached.entered.size = automaton.states.size
  onward {index next : Nat} {state : State} (isEntered : IsEntered reached.entered index)
    (found : automaton.states[index]? = some state) (isWay : next ∈ state.ways holds) :
    IsEntered reached.entered next ∨ next ∈ pending
  noted {index : Nat} {state : State} (isEntered : IsEntered reached.entered index)
    (found : automaton.states[index]? = some state)
    (plain : ∀ first second, state ≠ .branch first second) :
    ∃ thread ∈ reached.threads, thread.state = index

section

variable {entered : Array Bool} {index : Nat}

theorem lt_size_of_fresh (fresh : ¬ IsEntered entered index) : index < entered.size := by
  apply Nat.lt_of_not_le
  intro beyond
  apply fresh
  rw [IsEntered, Array.getElem?_eq_none beyond]
  rfl

theorem isEntered_set_iff {other : Nat} :
    IsEntered (entered.setIfInBounds index true) other ↔
      other = index ∨ IsEntered entered other := by
  rw [IsEntered, Array.getElem?_setIfInBounds]
  split
  case isTrue same =>
    subst same
    simp only [true_or, iff_true]
    split <;> rfl
  case isFalse different => simp only [Ne.symm different, false_or, IsEntered]

theorem count_set_of_fresh (fresh : ¬ IsEntered entered index) :
    (entered.setIfInBounds index true).count false + 1 = entered.count false := by
  have inside := lt_size_of_fresh fresh
  have isFalse : entered[index] = false := by
    rw [IsEntered, Array.getElem?_eq_getElem inside] at fresh
    exact Bool.eq_false_iff.mpr fresh
  have present : 0 < entered.count false :=
    Array.count_pos_iff.mpr (isFalse ▸ Array.getElem_mem inside)
  rw [Array.setIfInBounds_def, dif_pos inside, Array.count_set, isFalse]
  simp only [beq_self_eq_true, if_true]
  have other : ¬ (true == false) = true := nofun
  rw [if_neg other]
  omega

end

namespace Explores

variable {index : Nat} {others pending : List Nat} {threads : List Thread} {entered : Array Bool}

theorem mono {reached : Reached} (explores : automaton.Explores holds others reached)
    (subset : others ⊆ pending) : automaton.Explores holds pending reached where
  size_eq := explores.size_eq
  onward isEntered found isWay :=
    (explores.onward isEntered found isWay).imp_right fun member => subset member
  noted := explores.noted

theorem skip (explores : automaton.Explores holds (index :: others) ⟨threads, entered⟩)
    (isEntered : IsEntered entered index) :
    automaton.Explores holds others ⟨threads, entered⟩ where
  size_eq := explores.size_eq
  onward isEntered' found isWay := by
    rcases explores.onward isEntered' found isWay with entered' | member
    · exact .inl entered'
    · rcases List.mem_cons.mp member with rfl | member
      · exact .inl isEntered
      · exact .inr member
  noted := explores.noted

theorem enter (explores : automaton.Explores holds (index :: others) ⟨threads, entered⟩)
    {state : State} (found : automaton.states[index]? = some state) (origin : Nat) :
    automaton.Explores holds (state.ways holds ++ others)
      ⟨state.noting ⟨index, origin⟩ threads, entered.setIfInBounds index true⟩ where
  size_eq := by
    rw [Array.size_setIfInBounds]
    exact explores.size_eq
  onward := by
    intro other next kind isEntered isKind isWay
    rcases isEntered_set_iff.mp isEntered with rfl | isEntered
    · cases found.symm.trans isKind
      exact .inr (List.mem_append_left _ isWay)
    · rcases explores.onward isEntered isKind isWay with entered' | member
      · exact .inl (isEntered_set_iff.mpr (.inr entered'))
      · rcases List.mem_cons.mp member with rfl | member
        · exact .inl (isEntered_set_iff.mpr (.inl rfl))
        · exact .inr (List.mem_append_right _ member)
  noted := by
    intro other kind isEntered isKind plain
    rcases isEntered_set_iff.mp isEntered with rfl | isEntered
    · cases found.symm.trans isKind
      exact ⟨_, state.mem_noting plain, rfl⟩
    · rcases explores.noted isEntered isKind plain with ⟨thread, member, same⟩
      exact ⟨thread, state.subset_noting _ _ member, same⟩

theorem follow {fuel : Nat} (explores : automaton.Explores holds pending ⟨threads, entered⟩)
    (enough : 2 * entered.count false + pending.length ≤ fuel) (origin : Nat) :
    automaton.Explores holds [] (automaton.follow holds origin fuel pending ⟨threads, entered⟩) ∧
      ∀ index, IsEntered entered index ∨ index ∈ pending →
        IsEntered (automaton.follow holds origin fuel pending ⟨threads, entered⟩).entered
          index := by
  induction fuel generalizing pending threads entered with
  | zero =>
    have nothing : pending = [] := List.length_eq_zero_iff.mp (by omega)
    subst nothing
    exact ⟨explores, fun index isEntered => isEntered.resolve_right List.not_mem_nil⟩
  | succ fuel induction =>
    cases pending with
    | nil => exact ⟨explores, fun index isEntered => isEntered.resolve_right List.not_mem_nil⟩
    | cons index others =>
      rw [List.length_cons] at enough
      by_cases isEntered : IsEntered entered index
      case pos =>
        rw [follow_entered isEntered]
        rcases induction (explores.skip isEntered) (by omega) with ⟨done, keeps⟩
        refine ⟨done, fun other isOther => keeps other ?_⟩
        rcases isOther with isOther | member
        · exact .inl isOther
        · rcases List.mem_cons.mp member with rfl | member
          · exact .inl isEntered
          · exact .inr member
      case neg =>
        -- There is one state less to be entered, which counts twice: it leads to two at most.
        have inside := lt_size_of_fresh isEntered
        rw [explores.size_eq] at inside
        have found := Array.getElem?_eq_getElem inside
        have fewer := count_set_of_fresh isEntered
        have ways := State.length_ways_le holds automaton.states[index]
        rw [follow_fresh isEntered found]
        rcases induction (explores.enter found origin) (by rw [List.length_append]; omega) with
          ⟨done, keeps⟩
        refine ⟨done, fun other isOther => keeps other ?_⟩
        rw [isEntered_set_iff]
        rcases isOther with isOther | member
        · exact .inl (.inr isOther)
        · rcases List.mem_cons.mp member with rfl | member
          · exact .inl (.inl rfl)
          · exact .inr (List.mem_append_right _ member)

end Explores

section

variable {reached : Reached} {position stop steps index : Nat}
  (explores : automaton.Explores holds [] reached)

include explores

theorem Explores.isEntered_way {next : Nat} {state : State}
    (isEntered : IsEntered reached.entered index) (found : automaton.states[index]? = some state)
    (isWay : next ∈ state.ways holds) : IsEntered reached.entered next :=
  (explores.onward isEntered found isWay).resolve_right List.not_mem_nil

theorem Explores.exists_thread (leads : automaton.Leads text stop steps index position)
    (isEntered : IsEntered reached.entered index) :
    ∃ thread ∈ reached.threads, ∃ fewer,
      automaton.Leads text stop fewer thread.state position := by
  induction leads with
  | accept found =>
    rcases explores.noted isEntered found nofun with ⟨thread, member, rfl⟩
    exact ⟨thread, member, _, .accept found⟩
  | step found isNext taken onward =>
    rcases explores.noted isEntered found nofun with ⟨thread, member, rfl⟩
    exact ⟨thread, member, _, .step found isNext taken onward⟩
  | check found holds onward =>
    rcases explores.noted isEntered found nofun with ⟨thread, member, rfl⟩
    exact ⟨thread, member, _, .check found holds onward⟩
  | branch found isWay _ induction =>
    exact induction (explores.isEntered_way isEntered found (by simpa [State.ways] using isWay))

theorem Explores.exists_thread_of_passes
    (passes : ∀ thread ∈ reached.threads, ∀ condition next,
      automaton.states[thread.state]? = some (.check condition next) →
        condition.holds (Text.before? text position) text[position]? = true →
          holds condition = true)
    (leads : automaton.Leads text stop steps index position)
    (isEntered : IsEntered reached.entered index) :
    ∃ thread ∈ reached.threads, ∃ state, automaton.states[thread.state]? = some state ∧
      state.opens = [] ∧ ∃ fewer, automaton.Leads text stop fewer thread.state position := by
  induction leads with
  | accept found =>
    rcases explores.noted isEntered found nofun with ⟨thread, member, rfl⟩
    exact ⟨thread, member, _, found, rfl, _, .accept found⟩
  | step found isNext taken onward =>
    rcases explores.noted isEntered found nofun with ⟨thread, member, rfl⟩
    exact ⟨thread, member, _, found, rfl, _, .step found isNext taken onward⟩
  | check found isTrue _ induction =>
    rcases explores.noted isEntered found nofun with ⟨thread, member, rfl⟩
    have passed := passes thread member _ _ found isTrue
    exact induction passes (explores.isEntered_way isEntered found (by simp [State.ways, passed]))
  | branch found isWay _ induction =>
    exact induction passes
      (explores.isEntered_way isEntered found (by simpa [State.ways] using isWay))

end

theorem exists_explores (automaton : Automaton) (holds : Assertion → Bool) (threads : List Thread) :
    ∃ reached, automaton.Explores holds [] reached ∧
      (∀ thread ∈ threads, IsEntered reached.entered thread.state) ∧
        automaton.spread holds threads = reached.threads.reverse := by
  have fold (reached : Reached) (explores : automaton.Explores holds [] reached) :
      ∃ final, final = threads.foldl (fun reached thread =>
          automaton.follow holds thread.origin (2 * automaton.states.size + 2) [thread.state]
            reached) reached ∧
        automaton.Explores holds [] final ∧
          ∀ index, (IsEntered reached.entered index ∨ ∃ thread ∈ threads, thread.state = index) →
            IsEntered final.entered index := by
    induction threads generalizing reached with
    | nil =>
      refine ⟨reached, rfl, explores, fun index isEntered => isEntered.resolve_right ?_⟩
      exact fun ⟨_, member, _⟩ => List.not_mem_nil member
    | cons thread others induction =>
      have started := explores.mono (List.nil_subset [thread.state])
      have enough : 2 * reached.entered.count false + [thread.state].length ≤
          2 * automaton.states.size + 2 := by
        have few : reached.entered.count false ≤ automaton.states.size :=
          explores.size_eq ▸ Array.count_le_size
        rw [List.length_singleton]
        omega
      rcases started.follow enough thread.origin with ⟨explored, keeps⟩
      rcases induction _ explored with ⟨final, isFinal, done, keepsAll⟩
      refine ⟨final, isFinal, done, fun index isEntered => keepsAll index ?_⟩
      rcases isEntered with isEntered | ⟨other, member, same⟩
      · exact .inl (keeps index (.inl isEntered))
      · rcases List.mem_cons.mp member with rfl | member
        · exact .inl (keeps index (.inr (List.mem_singleton.mpr same.symm)))
        · exact .inr ⟨other, member, same⟩
  have nothing : automaton.Explores holds []
      ⟨[], Array.replicate automaton.states.size false⟩ := by
    have missing {index : Nat} (isEntered : IsEntered (Array.replicate automaton.states.size false)
        index) : automaton.states[index]? = none := by
      apply Array.getElem?_eq_none
      apply Nat.le_of_not_lt
      intro inside
      rw [IsEntered, Array.getElem?_replicate, if_pos inside] at isEntered
      cases isEntered
    refine ⟨Array.size_replicate, ?_, ?_⟩
    · intro index next state isEntered found
      cases (missing isEntered).symm.trans found
    · intro index state isEntered found
      cases (missing isEntered).symm.trans found
  rcases fold _ nothing with ⟨final, isFinal, done, keeps⟩
  exact ⟨final, done, fun thread member => keeps _ (.inr ⟨thread, member, rfl⟩),
    congrArg (List.reverse ∘ Reached.threads) isFinal.symm⟩

theorem exists_thread_threadsAt {position stop steps : Nat} (delayed : Bool)
    {threads : List Thread} {thread : Thread} (member : thread ∈ threads)
    (leads : automaton.Leads text stop steps thread.state position) :
    ∃ waiting ∈ automaton.threadsAt delayed (Text.before? text position) text[position]? threads,
      ∃ state, automaton.states[waiting.state]? = some state ∧ state.opens = [] ∧
        ∃ fewer, automaton.Leads text stop fewer waiting.state position := by
  have certain {threads : List Thread} {thread : Thread} {steps : Nat} (member : thread ∈ threads)
      (leads : automaton.Leads text stop steps thread.state position) :
      ∃ waiting ∈ automaton.spread (·.holds (Text.before? text position) text[position]?) threads,
        ∃ state, automaton.states[waiting.state]? = some state ∧ state.opens = [] ∧
          ∃ fewer, automaton.Leads text stop fewer waiting.state position := by
    rcases exists_explores automaton (·.holds (Text.before? text position) text[position]?) threads
      with ⟨reached, explores, enters, isSpread⟩
    simp only [isSpread, List.mem_reverse]
    exact explores.exists_thread_of_passes (fun _ _ _ _ _ passed => passed) leads
      (enters thread member)
  unfold threadsAt
  split
  case isFalse => exact certain member leads
  case isTrue =>
    dsimp only
    rcases exists_explores automaton (·.holdsBehind (Text.before? text position)) threads with
      ⟨reached, explores, enters, isSpread⟩
    split
    case isTrue =>
      rcases explores.exists_thread leads (enters thread member) with ⟨early, isEarly, _, onward⟩
      refine certain ?_ onward
      rwa [isSpread, List.mem_reverse]
    case isFalse noneReleased =>
      simp only [isSpread, List.mem_reverse, List.any_eq_true, not_exists,
        not_and] at noneReleased ⊢
      refine explores.exists_thread_of_passes ?_ leads (enters thread member)
      intro waiting isWaiting condition next asks isTrue
      have stays := noneReleased waiting isWaiting
      simpa [isReleased, asks, isTrue] using stays

/-! ## Searching -/

/-- Whether threads at a place are on a way that accepts. -/
def IsHopeful (automaton : Automaton) (text : List Char) (position : Nat)
    (threads : List Thread) : Prop :=
  ∃ thread ∈ threads, ∃ stop steps, automaton.Leads text stop steps thread.state position

theorem mem_onward {char : Char} {threads : List Thread} {thread : Thread} {set : CharClass}
    {next : Nat} (noneAccepts : threads.find? automaton.isAccepting = none)
    (member : thread ∈ threads)
    (found : automaton.states[thread.state]? = some (.step set next))
    (taken : set.contains char = true) :
    ⟨next, thread.origin⟩ ∈ automaton.onward char threads := by
  rw [List.find?_eq_none] at noneAccepts
  have all : threads.takeWhile (fun thread => !automaton.isAccepting thread) = threads := by
    rw [List.takeWhile_eq_self_iff]
    exact fun other isOther => by simpa using noneAccepts other isOther
  rw [onward, all, List.mem_filterMap]
  exact ⟨thread, member, by rw [advance_of_step found, if_pos taken]⟩

theorem IsHopeful.accepts_or_onward {position : Nat} {threads : List Thread}
    (hopeful : automaton.IsHopeful text position threads) (delayed : Bool) :
    let opened :=
      automaton.threadsAt delayed (Text.before? text position) text[position]? threads
    (automaton.accepted? position opened).isSome = true ∨ ∃ char, text[position]? = some char ∧
      automaton.IsHopeful text (position + 1) (automaton.onward char opened) := by
  intro opened
  rcases hopeful with ⟨thread, member, stop, steps, leads⟩
  rcases exists_thread_threadsAt delayed member leads with
    ⟨waiting, isWaiting, state, found, closed, fewer, leads⟩
  cases accepting : opened.find? automaton.isAccepting with
  | some accepts =>
    left
    rw [accepted?, accepting]
    rfl
  | none =>
    right
    cases leads with
    | accept isAccept =>
      rw [List.find?_eq_none] at accepting
      exact absurd (isAccepting_iff.mpr isAccept) (accepting waiting isWaiting)
    | step isStep isNext taken onward =>
      exact ⟨_, isNext, _, mem_onward accepting isWaiting isStep taken, stop, _, onward⟩
    | check isCheck | branch isBranch =>
      cases found.symm.trans ‹_›
      cases closed

/-- What is accepted on some way is found, unless the search gives up. -/
theorem isSome_of_searchFrom {delayed : Bool} {position : Nat} {before : Option Char}
    {threads : List Thread} {found result : Option Match} {rest : List Char}
    (searched : automaton.searchFrom delayed position before threads found rest = some result)
    (isRest : text.drop position = rest) (isBefore : before = Text.before? text position)
    (hopeful : found.isSome = true ∨ automaton.IsHopeful text position threads) :
    result.isSome = true := by
  induction rest generalizing position before threads found with
  | nil =>
    have isEnd : text[position]? = none := by rw [← List.head?_drop, isRest, List.head?_nil]
    rw [searchFrom_nil, Option.some.injEq] at searched
    rw [← searched, Option.orElse_eq_orElse, Option.orElse_eq_or, Option.isSome_or, Bool.or_eq_true]
    rcases hopeful with isFound | hopeful
    · exact .inr isFound
    · rcases hopeful.accepts_or_onward delayed with isSome | ⟨char, isNext, _⟩
      · rw [← isBefore, isEnd] at isSome
        exact .inl isSome
      · cases isEnd.symm.trans isNext
  | cons char rest induction =>
    rcases drop_eq_cons isRest with ⟨isNext, isRest⟩
    rw [searchFrom_cons] at searched
    dsimp only at searched
    generalize isOpened :
      automaton.threadsAt delayed before (some char) threads = opened at searched
    have later : (automaton.accepted? position opened <|> found).isSome = true ∨
        automaton.IsHopeful text (position + 1) (automaton.onward char opened) := by
      rw [Option.orElse_eq_orElse, Option.orElse_eq_or, Option.isSome_or, Bool.or_eq_true]
      rcases hopeful with isFound | hopeful
      · exact .inl (.inr isFound)
      · have step := hopeful.accepts_or_onward delayed
        rw [← isBefore, isNext, isOpened] at step
        rcases step with isSome | ⟨other, same, onward⟩
        · exact .inl (.inl isSome)
        · cases same
          exact .inr onward
    split at searched
    case isTrue => cases searched
    case isFalse =>
      split at searched
      case isTrue stops =>
        rw [Bool.and_eq_true, List.isEmpty_iff, List.append_eq_nil_iff] at stops
        rw [← Option.some.inj searched]
        rcases later with isSome | ⟨thread, member, _⟩
        · exact isSome
        · rw [stops.1.1] at member
          cases member
      case isFalse =>
        refine induction searched isRest isNext.symm (later.imp_right ?_)
        intro ⟨thread, member, onward⟩
        exact ⟨thread, List.mem_append_left _ member, onward⟩

theorem searchFrom_without_delay (automaton : Automaton) (position : Nat) (before : Option Char)
    (threads : List Thread) (found : Option Match) (text : List Char) :
    ∃ result, automaton.searchFrom false position before threads found text = some result := by
  induction text generalizing position before threads found with
  | nil => exact ⟨_, searchFrom_nil⟩
  | cons char rest induction =>
    rw [searchFrom_cons]
    dsimp only
    rw [if_neg (by simp)]
    split
    · exact ⟨_, rfl⟩
    · exact induction ..

theorem isSome_find?_of_leads {stop steps : Nat}
    (leads : automaton.Leads text stop steps automaton.entry 0) :
    (automaton.find? text).isSome = true := by
  have hopeful : automaton.IsHopeful text 0 [⟨automaton.entry, 0⟩] :=
    ⟨_, List.mem_singleton_self _, stop, steps, leads⟩
  have always {delayed : Bool} {result : Option Match} (searched : automaton.searchFrom delayed 0
      none [⟨automaton.entry, 0⟩] none text = some result) : result.isSome = true :=
    isSome_of_searchFrom searched List.drop_zero rfl (.inr hopeful)
  unfold find?
  dsimp only
  cases quick : automaton.searchFrom true 0 none [⟨automaton.entry, 0⟩] none text with
  | some result => exact always quick
  | none =>
    rcases searchFrom_without_delay automaton 0 none [⟨automaton.entry, 0⟩] none text with
      ⟨result, searched⟩
    rw [searched]
    exact always searched

end Automaton

/-! ## Searching for patterns -/

namespace Pattern

variable {pattern : Pattern} {text : List Char}

/-- What is found in a text is taken by the pattern, and from the start if the pattern is bound to
it. -/
theorem takes_of_find? {found : Match}
    (isFound : (Automaton.ofPattern pattern).find? text = some found) :
    pattern.Takes text found.start found.stop ∧
      (pattern.isAnchored = true → found.start = 0) := by
  rcases Automaton.isAccepted_of_find? isFound with ⟨anchored, leads⟩
  exact ⟨Automaton.exists_leads_iff.mp leads, anchored⟩

/-- A pattern that takes the start of a text is found in it. -/
theorem isSome_find?_of_takes {stop : Nat} (taken : pattern.Takes text 0 stop) :
    ((Automaton.ofPattern pattern).find? text).isSome = true := by
  rcases Automaton.exists_leads_iff.mpr taken with ⟨steps, leads⟩
  exact Automaton.isSome_find?_of_leads leads

end Pattern

end Proviso
