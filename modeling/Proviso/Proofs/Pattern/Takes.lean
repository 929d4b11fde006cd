import Proviso.Pattern.Automaton

/-!
What a pattern takes, said without an automaton: a pattern takes the text between two places. The
automaton of a pattern accepts at the places up to which the pattern takes the text. For this the
states of a part of a pattern are summed up in one fact: from the first of them one gets on exactly
as one gets on from the state behind them, behind the text that the part takes.
-/

namespace Proviso

def Text.before? (text : List Char) : Nat → Option Char
  | 0 => none
  | position + 1 => text[position]?

namespace Pattern

/-! ## Texts of patterns -/

/-- A number of stretches, each of which begins where the one before it ends. -/
def Stretches (takes : Nat → Nat → Prop) : Nat → Nat → Nat → Prop
  | 0, start, stop => start = stop
  | count + 1, start, stop => ∃ middle, takes start middle ∧ Stretches takes count middle stop

/-- Whether a pattern takes the text from one place up to another, as one of possibly several ways
to match there. An upper limit of a repetition counts only if it is not below the lower one. -/
def Takes (text : List Char) : Pattern → Nat → Nat → Prop
  | .empty, start, stop => start = stop
  | .oneOf set, start, stop => start + 1 = stop ∧ ∃ char ∈ text[start]?, set.contains char = true
  | .assertion condition, start, stop =>
    start = stop ∧ condition.holds (Text.before? text start) text[start]? = true
  | .sequence first second, start, stop =>
    ∃ middle, first.Takes text start middle ∧ second.Takes text middle stop
  | .choice first second, start, stop => first.Takes text start stop ∨ second.Takes text start stop
  | .group body, start, stop => body.Takes text start stop
  | .repeated body least most _, start, stop =>
    ∃ count, (least ≤ count ∧ ∀ limit ∈ most, count ≤ max least limit) ∧
      Stretches (body.Takes text) count start stop

theorem stretches_add {takes : Nat → Nat → Prop} {first second start stop : Nat} :
    Stretches takes (first + second) start stop ↔
      ∃ middle, Stretches takes first start middle ∧ Stretches takes second middle stop := by
  induction first generalizing start with
  | zero => simp [Stretches]
  | succ first induction =>
    rw [Nat.succ_add]
    simp only [Stretches, induction]
    constructor
    · intro ⟨next, taken, middle, others, rest⟩
      exact ⟨middle, ⟨next, taken, others⟩, rest⟩
    · intro ⟨middle, ⟨next, taken, others⟩, rest⟩
      exact ⟨next, taken, middle, others, rest⟩

theorem exists_stretches_add {takes : Nat → Nat → Prop} {allowed : Nat → Prop}
    {least start stop : Nat} :
    (∃ middle, Stretches takes least start middle ∧
      ∃ count, allowed count ∧ Stretches takes count middle stop) ↔
      ∃ count, (least ≤ count ∧ allowed (count - least)) ∧ Stretches takes count start stop := by
  constructor
  · intro ⟨middle, needed, count, isAllowed, more⟩
    have difference : least + count - least = count := Nat.add_sub_cancel_left ..
    exact ⟨least + count, ⟨Nat.le_add_right .., difference.symm ▸ isAllowed⟩,
      stretches_add.mpr ⟨middle, needed, more⟩⟩
  · intro ⟨count, ⟨bound, isAllowed⟩, stretches⟩
    rw [← Nat.add_sub_cancel' bound, stretches_add] at stretches
    rcases stretches with ⟨middle, needed, more⟩
    exact ⟨middle, needed, count - least, isAllowed, more⟩

theorem stretches_one {takes : Nat → Nat → Prop} {start stop : Nat} :
    Stretches takes 1 start stop ↔ takes start stop := by
  simp [Stretches]

section

variable {text : List Char} {start stop : Nat}

theorem takes_unlimited {body : Pattern} {least : Nat} {greedy : Bool} :
    (Pattern.repeated body least none greedy).Takes text start stop ↔
      ∃ count, least ≤ count ∧ Stretches (body.Takes text) count start stop := by
  simp [Takes]

theorem takes_ofParts_append {first second : List Pattern} :
    (ofParts (first ++ second)).Takes text start stop ↔
      ∃ middle, (ofParts first).Takes text start middle ∧
        (ofParts second).Takes text middle stop := by
  induction first generalizing start with
  | nil => simp [ofParts, Takes]
  | cons pattern rest induction =>
    have front (others : List Pattern) {start stop : Nat} :
        (ofParts (pattern :: others)).Takes text start stop ↔
          ∃ middle, pattern.Takes text start middle ∧ (ofParts others).Takes text middle stop := by
      cases others with
      | nil => simp [ofParts, Takes]
      | cons => rfl
    rw [List.cons_append]
    simp only [front, induction]
    constructor
    · intro ⟨next, taken, middle, others, behind⟩
      exact ⟨middle, ⟨next, taken, others⟩, behind⟩
    · intro ⟨middle, ⟨next, taken, others⟩, behind⟩
      exact ⟨next, taken, middle, others, behind⟩

theorem takes_ofParts_parts {pattern : Pattern} {start stop : Nat} :
    (ofParts pattern.parts).Takes text start stop ↔ pattern.Takes text start stop := by
  induction pattern generalizing start stop with
  | sequence first second inFirst inSecond =>
    rw [parts, takes_ofParts_append]
    simp only [inFirst, inSecond, Takes]
  | _ => rfl

theorem takes_concat_pair {first second : Pattern} :
    (concat [first, second]).Takes text start stop ↔
      ∃ middle, first.Takes text start middle ∧ second.Takes text middle stop := by
  have flattened : [first, second].flatMap parts = first.parts ++ second.parts := by simp
  rw [concat, flattened, takes_ofParts_append]
  simp only [takes_ofParts_parts]

end

end Pattern

namespace Automaton

/-! ## Ways to accept -/

/-- Whether a state at a place of a text leads to the accepting state at another place, in a number
of steps. -/
inductive Leads (automaton : Automaton) (text : List Char) (stop : Nat) :
    Nat → Nat → Nat → Prop where
  | accept {state : Nat} (found : automaton.states[state]? = some .accept) :
    Leads automaton text stop 0 state stop
  | step {steps state position next : Nat} {set : CharClass} {char : Char}
    (found : automaton.states[state]? = some (.step set next))
    (isNext : text[position]? = some char) (taken : set.contains char = true)
    (onward : Leads automaton text stop steps next (position + 1)) :
    Leads automaton text stop (steps + 1) state position
  | check {steps state position next : Nat} {condition : Assertion}
    (found : automaton.states[state]? = some (.check condition next))
    (holds : condition.holds (Text.before? text position) text[position]? = true)
    (onward : Leads automaton text stop steps next position) :
    Leads automaton text stop (steps + 1) state position
  | branch {steps state position first second next : Nat}
    (found : automaton.states[state]? = some (.branch first second))
    (isWay : next = first ∨ next = second)
    (onward : Leads automaton text stop steps next position) :
    Leads automaton text stop (steps + 1) state position

/-- Whether a state leads on exactly as another one does, behind the text that is taken between
them. -/
structure Passes (automaton : Automaton) (text : List Char) (state next : Nat)
    (takes : Nat → Nat → Prop) : Prop where
  splits {stop steps start : Nat} (leads : automaton.Leads text stop steps state start) :
    ∃ middle fewer, fewer ≤ steps ∧ takes start middle ∧
      automaton.Leads text stop fewer next middle
  joins {stop steps start middle : Nat} (taken : takes start middle)
    (leads : automaton.Leads text stop steps next middle) :
    ∃ more, automaton.Leads text stop more state start

namespace Passes

variable {automaton : Automaton} {text : List Char} {state next last inside outside : Nat}
  {takes further : Nat → Nat → Prop}

theorem nothing : automaton.Passes text state state (fun start stop => start = stop) where
  splits leads := ⟨_, _, Nat.le_refl _, rfl, leads⟩
  joins taken leads := ⟨_, taken ▸ leads⟩

theorem congr (passes : automaton.Passes text state next takes)
    (same : ∀ start stop, takes start stop ↔ further start stop) :
    automaton.Passes text state next further where
  splits leads := by
    rcases passes.splits leads with ⟨middle, fewer, bound, taken, onward⟩
    exact ⟨middle, fewer, bound, (same _ _).mp taken, onward⟩
  joins taken leads := passes.joins ((same _ _).mpr taken) leads

theorem trans (first : automaton.Passes text state next takes)
    (second : automaton.Passes text next last further) :
    automaton.Passes text state last fun start stop =>
      ∃ middle, takes start middle ∧ further middle stop where
  splits leads := by
    rcases first.splits leads with ⟨middle, fewer, bound, taken, onward⟩
    rcases second.splits onward with ⟨stop, fewest, tighter, takenNext, onward⟩
    exact ⟨stop, fewest, Nat.le_trans tighter bound, ⟨middle, taken, takenNext⟩, onward⟩
  joins := by
    intro stop steps start finish ⟨middle, taken, takenNext⟩ leads
    rcases second.joins takenNext leads with ⟨more, onward⟩
    exact first.joins taken onward

theorem step {set : CharClass} (found : automaton.states[state]? = some (.step set next)) :
    automaton.Passes text state next fun start stop =>
      start + 1 = stop ∧ ∃ char ∈ text[start]?, set.contains char = true where
  splits leads := by
    cases leads with
    | step found' isNext taken onward =>
      cases found.symm.trans found'
      exact ⟨_, _, Nat.le_succ _, ⟨rfl, _, isNext, taken⟩, onward⟩
    | accept found' | check found' | branch found' => cases found.symm.trans found'
  joins := by
    rintro stop steps start _ ⟨rfl, char, isNext, taken⟩ leads
    exact ⟨_, .step found isNext taken leads⟩

theorem check {condition : Assertion}
    (found : automaton.states[state]? = some (.check condition next)) :
    automaton.Passes text state next fun start stop =>
      start = stop ∧ condition.holds (Text.before? text start) text[start]? = true where
  splits leads := by
    cases leads with
    | check found' holds onward =>
      cases found.symm.trans found'
      exact ⟨_, _, Nat.le_succ _, ⟨rfl, holds⟩, onward⟩
    | accept found' | step found' | branch found' => cases found.symm.trans found'
  joins := by
    rintro stop steps start _ ⟨rfl, holds⟩ leads
    exact ⟨_, .check found holds leads⟩

theorem leads_branch_iff {greedy : Bool}
    (found : automaton.states[state]? = some (Fragment.branch greedy inside outside))
    {stop steps start : Nat} :
    automaton.Leads text stop steps state start ↔
      ∃ fewer, steps = fewer + 1 ∧ (automaton.Leads text stop fewer inside start ∨
        automaton.Leads text stop fewer outside start) := by
  have ways : ∃ first second, automaton.states[state]? = some (.branch first second) ∧
      ∀ way, (way = first ∨ way = second) ↔ (way = inside ∨ way = outside) := by
    cases greedy with
    | true => exact ⟨inside, outside, found, fun _ => Iff.rfl⟩
    | false => exact ⟨outside, inside, found, fun _ => or_comm⟩
  rcases ways with ⟨first, second, isBranch, same⟩
  constructor
  · intro leads
    cases leads with
    | branch found' isWay onward =>
      cases isBranch.symm.trans found'
      rcases (same _).mp isWay with rfl | rfl
      · exact ⟨_, rfl, .inl onward⟩
      · exact ⟨_, rfl, .inr onward⟩
    | accept found' | step found' | check found' => cases isBranch.symm.trans found'
  · rintro ⟨fewer, rfl, onward | onward⟩
    · exact .branch isBranch ((same _).mpr (.inl rfl)) onward
    · exact .branch isBranch ((same _).mpr (.inr rfl)) onward

theorem branch {greedy : Bool}
    (found : automaton.states[state]? = some (Fragment.branch greedy inside outside))
    (first : automaton.Passes text inside next takes)
    (second : automaton.Passes text outside next further) :
    automaton.Passes text state next fun start stop => takes start stop ∨ further start stop where
  splits leads := by
    rcases (leads_branch_iff found).mp leads with ⟨steps, rfl, onward | onward⟩
    · rcases first.splits onward with ⟨middle, fewer, bound, taken, onward⟩
      exact ⟨middle, fewer, Nat.le_succ_of_le bound, .inl taken, onward⟩
    · rcases second.splits onward with ⟨middle, fewer, bound, taken, onward⟩
      exact ⟨middle, fewer, Nat.le_succ_of_le bound, .inr taken, onward⟩
  joins := by
    rintro stop steps start middle (taken | taken) leads
    · rcases first.joins taken leads with ⟨more, onward⟩
      exact ⟨_, (leads_branch_iff found).mpr ⟨more, rfl, .inl onward⟩⟩
    · rcases second.joins taken leads with ⟨more, onward⟩
      exact ⟨_, (leads_branch_iff found).mpr ⟨more, rfl, .inr onward⟩⟩

theorem loop {greedy : Bool}
    (found : automaton.states[state]? = some (Fragment.branch greedy inside outside))
    (round : automaton.Passes text inside state takes) :
    automaton.Passes text state outside fun start stop =>
      ∃ count, Pattern.Stretches takes count start stop where
  splits := by
    intro stop steps start leads
    induction steps using Nat.strongRecOn generalizing start with
    | ind steps induction =>
      rcases (leads_branch_iff found).mp leads with ⟨steps, rfl, onward | onward⟩
      -- Every round takes a step, even one that takes no character.
      · rcases round.splits onward with ⟨middle, fewer, bound, taken, again⟩
        rcases induction fewer (Nat.lt_succ_of_le bound) again with
          ⟨finish, fewest, tighter, ⟨count, others⟩, behind⟩
        exact ⟨finish, fewest, by omega, ⟨count + 1, middle, taken, others⟩, behind⟩
      · exact ⟨start, steps, Nat.le_succ _, ⟨0, rfl⟩, onward⟩
  joins := by
    intro stop steps start middle ⟨count, rounds⟩ leads
    induction count generalizing start with
    | zero =>
      cases rounds
      exact ⟨_, (leads_branch_iff found).mpr ⟨steps, rfl, .inr leads⟩⟩
    | succ count induction =>
      rcases rounds with ⟨next, taken, others⟩
      rcases induction others with ⟨more, again⟩
      rcases round.joins taken again with ⟨most, onward⟩
      exact ⟨_, (leads_branch_iff found).mpr ⟨most, rfl, .inl onward⟩⟩

end Passes

/-! ## States of patterns -/

def Holds (automaton : Automaton) (start : Nat) (states : List State) : Prop :=
  ∀ index state, states[index]? = some state → automaton.states[start + index]? = some state

variable {automaton : Automaton} {text : List Char} {start : Nat}

theorem holds_append {first second : List State} :
    automaton.Holds start (first ++ second) ↔
      automaton.Holds start first ∧ automaton.Holds (start + first.length) second := by
  constructor
  · intro holds
    constructor
    · intro index state found
      refine holds index state ?_
      rwa [List.getElem?_append_left (List.getElem?_eq_some_iff.mp found).1]
    · intro index state found
      rw [Nat.add_assoc]
      refine holds _ state ?_
      rwa [List.getElem?_append_right (Nat.le_add_right ..), Nat.add_sub_cancel_left]
  · intro ⟨holdsFirst, holdsSecond⟩ index state found
    rw [List.getElem?_append] at found
    split at found
    case isTrue => exact holdsFirst index state found
    case isFalse beyond =>
      have behind := holdsSecond _ state found
      rwa [Nat.add_assoc, Nat.add_sub_cancel' (Nat.le_of_not_lt beyond)] at behind

theorem holds_cons {first : State} {others : List State} :
    automaton.Holds start (first :: others) ↔
      automaton.states[start]? = some first ∧ automaton.Holds (start + 1) others := by
  rw [← List.singleton_append, holds_append]
  apply and_congr_left'
  constructor
  · intro holds
    exact holds 0 first rfl
  · intro found index state isState
    cases index with
    | zero =>
      cases isState
      exact found
    | succ index => cases isState

theorem holds_behind_copies {build : Nat → Nat → Fragment} {width count : Nat} {behind : Fragment}
    (each : ∀ start next, (build start next).states.length = width)
    (holds : automaton.Holds start (Fragment.copies build width start count behind).states) :
    automaton.Holds (start + count * width) behind.states := by
  induction count generalizing behind with
  | zero => rwa [Nat.zero_mul, Nat.add_zero]
  | succ count induction =>
    have holdsBoth := (holds_append.mp (induction holds)).2
    rwa [each, Nat.add_assoc, ← Nat.succ_mul] at holdsBoth

/-- Whether what is built of states passes what is taken, wherever it stands. -/
def Builds (automaton : Automaton) (text : List Char) (build : Nat → Nat → Fragment)
    (takes : Nat → Nat → Prop) : Prop :=
  ∀ start next, automaton.Holds start (build start next).states →
    automaton.Passes text (build start next).entry next takes

namespace Builds

variable {build : Nat → Nat → Fragment} {takes : Nat → Nat → Prop} {width count : Nat}
  {behind : Fragment} {greedy : Bool} (builds : automaton.Builds text build takes)

include builds

theorem copies (each : ∀ start next, (build start next).states.length = width)
    (holds : automaton.Holds start (Fragment.copies build width start count behind).states) :
    automaton.Passes text (Fragment.copies build width start count behind).entry behind.entry
      (Pattern.Stretches takes count) := by
  induction count generalizing behind with
  | zero => exact .nothing
  | succ count induction =>
    have holdsCopies :
        automaton.Holds start (Fragment.copies build width start count ⟨_, _⟩).states :=
      holds
    have holdsLast := (holds_append.mp (holds_behind_copies each holdsCopies)).1
    refine ((induction holds).trans (builds _ _ holdsLast)).congr fun start stop => ?_
    simp only [Pattern.stretches_add, Pattern.stretches_one]

theorem optional {entry stop most : Nat}
    (holds : automaton.Holds start (Fragment.optional build greedy stop start entry).states)
    (passes : automaton.Passes text entry stop fun start finish =>
      ∃ number ≤ most, Pattern.Stretches takes number start finish) :
    automaton.Passes text start stop fun start finish =>
      ∃ number ≤ most + 1, Pattern.Stretches takes number start finish := by
  rcases holds_cons.mp holds with ⟨isBranch, holdsBody⟩
  refine (Passes.branch isBranch ((builds _ _ holdsBody).trans passes) .nothing).congr ?_
  intro first last
  constructor
  · rintro (⟨middle, taken, number, bound, others⟩ | rfl)
    · exact ⟨number + 1, Nat.succ_le_succ bound, middle, taken, others⟩
    · exact ⟨0, Nat.zero_le _, rfl⟩
  · intro ⟨number, bound, rounds⟩
    cases number with
    | zero => exact .inr rounds
    | succ number =>
      rcases rounds with ⟨middle, taken, others⟩
      exact .inl ⟨middle, taken, number, Nat.le_of_succ_le_succ bound, others⟩

theorem optionals (each : ∀ start next, (build start next).states.length = width) {stop most : Nat}
    (holds : automaton.Holds start
      (Fragment.copies (Fragment.optional build greedy stop) (width + 1) start count behind).states)
    (passes : automaton.Passes text behind.entry stop fun start finish =>
      ∃ number ≤ most, Pattern.Stretches takes number start finish) :
    automaton.Passes text (Fragment.copies (Fragment.optional build greedy stop) (width + 1) start
        count behind).entry stop fun start finish =>
      ∃ number ≤ most + count, Pattern.Stretches takes number start finish := by
  induction count generalizing behind most with
  | zero => exact passes
  | succ count induction =>
    have eachOptional (start next : Nat) :
        (Fragment.optional build greedy stop start next).states.length = width + 1 := by
      rw [Fragment.optional, List.length_cons, each]
    have holdsCopies : automaton.Holds start
        (Fragment.copies (Fragment.optional build greedy stop) (width + 1) start count
          ⟨_, _⟩).states :=
      holds
    have holdsLast := (holds_append.mp (holds_behind_copies eachOptional holdsCopies)).1
    have passed := induction holds (builds.optional holdsLast passes)
    rwa [Nat.add_right_comm] at passed

theorem again {next : Nat}
    (holds : automaton.Holds start (Fragment.loop build greedy start next).states) :
    automaton.Passes text start next fun first last =>
      ∃ count, Pattern.Stretches takes count first last := by
  rcases holds_cons.mp holds with ⟨isBranch, holdsBody⟩
  exact (builds _ _ holdsBody).loop isBranch

theorem loop {next : Nat}
    (holds : automaton.Holds start (Fragment.loop build greedy start next).states) :
    automaton.Passes text (Fragment.loop build greedy start next).entry next fun first last =>
      ∃ count, 1 ≤ count ∧ Pattern.Stretches takes count first last := by
  have round := builds _ _ (holds_cons.mp holds).2
  refine (round.trans (builds.again holds)).congr fun first last => ?_
  constructor
  · intro ⟨middle, taken, count, others⟩
    exact ⟨count + 1, Nat.le_add_left .., middle, taken, others⟩
  · intro ⟨count, positive, rounds⟩
    rcases Nat.exists_eq_add_of_le' positive with ⟨count, rfl⟩
    rcases rounds with ⟨middle, taken, others⟩
    exact ⟨middle, taken, count, others⟩

end Builds

/-! ## Patterns -/

section Repeated

variable {text : List Char} {body : Pattern}
  (builds : automaton.Builds text body.build (body.Takes text)) (greedy : Bool)

include builds

theorem builds_limited (least most : Nat) :
    automaton.Builds text (Pattern.repeated body least (some most) greedy).build
      ((Pattern.repeated body least (some most) greedy).Takes text) := by
  intro start next holds
  have each := body.length_build
  have last : automaton.Passes text next next fun first last =>
      ∃ number ≤ 0, Pattern.Stretches (body.Takes text) number first last := by
    refine Passes.nothing.congr fun first last => ?_
    simp only [Nat.le_zero, exists_eq_left, Pattern.Stretches]
  have front := builds.copies each holds
  have behind := builds.optionals each (holds_behind_copies each holds) last
  refine (front.trans behind).congr fun first last => ?_
  have limits (count : Nat) : (least ≤ count ∧ count - least ≤ 0 + (most - least)) ↔
      (least ≤ count ∧ ∀ limit ∈ some most, count ≤ max least limit) := by
    simp only [Option.mem_def, Option.some.injEq, forall_eq']
    omega
  simp only [Pattern.exists_stretches_add, Pattern.Takes, limits]

/-- What may be taken never is a loop, in front of which a branch stands if the body can take
nothing. -/
theorem builds_unlimited_zero :
    automaton.Builds text (Pattern.repeated body 0 none greedy).build
      ((Pattern.repeated body 0 none greedy).Takes text) := by
  intro start next holds
  simp only [Pattern.build] at holds ⊢
  split at holds
  case isTrue mayBeEmpty =>
    rw [if_pos mayBeEmpty]
    rcases holds_cons.mp holds with ⟨isBranch, holdsAgain⟩
    have passes := Passes.branch isBranch (builds.loop holdsAgain) .nothing
    refine passes.congr fun first last => ?_
    rw [Pattern.takes_unlimited]
    constructor
    · rintro (⟨count, -, rounds⟩ | rfl)
      · exact ⟨count, Nat.zero_le _, rounds⟩
      · exact ⟨0, Nat.zero_le _, rfl⟩
    · rintro ⟨count, -, rounds⟩
      cases count with
      | zero => exact .inr rounds
      | succ count => exact .inl ⟨count + 1, Nat.le_add_left .., rounds⟩
  case isFalse takesText =>
    rw [if_neg takesText]
    refine (builds.again holds).congr fun first last => ?_
    simp only [Pattern.takes_unlimited, Nat.zero_le, true_and]

theorem builds_unlimited_succ (least : Nat) :
    automaton.Builds text (Pattern.repeated body (least + 1) none greedy).build
      ((Pattern.repeated body (least + 1) none greedy).Takes text) := by
  intro start next holds
  have each := body.length_build
  have front := builds.copies each holds
  have behind := builds.loop (holds_behind_copies each holds)
  refine (front.trans behind).congr fun first last => ?_
  have limits (count : Nat) : (least ≤ count ∧ 1 ≤ count - least) ↔ least + 1 ≤ count := by
    omega
  simp only [Pattern.takes_unlimited, Pattern.exists_stretches_add, limits]

end Repeated

theorem builds_pattern (automaton : Automaton) (text : List Char) (pattern : Pattern) :
    automaton.Builds text pattern.build (pattern.Takes text) := by
  induction pattern with
  | empty => exact fun start next holds => .nothing
  | oneOf set => exact fun start next holds => .step (holds 0 _ rfl)
  | assertion condition => exact fun start next holds => .check (holds 0 _ rfl)
  | sequence first second inFirst inSecond =>
    intro start next holds
    rcases holds_append.mp holds with ⟨holdsFirst, holdsSecond⟩
    rw [Pattern.length_build] at holdsSecond
    exact (inFirst _ _ holdsFirst).trans (inSecond _ _ holdsSecond)
  | choice first second inFirst inSecond =>
    intro start next holds
    rcases holds_cons.mp holds with ⟨isBranch, holds⟩
    rcases holds_append.mp holds with ⟨holdsFirst, holdsSecond⟩
    rw [Pattern.length_build] at holdsSecond
    have isBranch : automaton.states[start]? = some (Fragment.branch true _ _) := isBranch
    exact .branch isBranch (inFirst _ _ holdsFirst) (inSecond _ _ holdsSecond)
  | group body induction => exact induction
  | «repeated» body least most greedy induction =>
    cases most with
    | some most => exact builds_limited induction greedy least most
    | none =>
      cases least with
      | zero => exact builds_unlimited_zero induction greedy
      | succ least => exact builds_unlimited_succ induction greedy least

/-- The automaton of a pattern accepts where the pattern takes the text up to. -/
theorem exists_leads_iff {pattern : Pattern} {text : List Char} {start stop : Nat} :
    (∃ steps, (ofPattern pattern).Leads text stop steps (ofPattern pattern).entry start) ↔
      pattern.Takes text start stop := by
  have isAccept : (ofPattern pattern).states[0]? = some .accept := rfl
  have holds : (ofPattern pattern).Holds 1 (pattern.build 1 0).states := by
    intro index state found
    rw [ofPattern, List.getElem?_toArray, Nat.add_comm, List.getElem?_cons_succ]
    exact found
  have passes := builds_pattern _ text pattern 1 0 holds
  constructor
  · intro ⟨steps, leads⟩
    rcases passes.splits leads with ⟨middle, fewer, -, taken, onward⟩
    cases onward with
    | accept => exact taken
    | step found | check found | branch found => cases isAccept.symm.trans found
  · intro taken
    exact passes.joins taken (.accept isAccept)

end Automaton

end Proviso
