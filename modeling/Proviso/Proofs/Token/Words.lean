import Proviso.Proofs.Pattern.Chain
import Proviso.Proofs.Token.Cuts

/-!
The words of the language that are written in one way only: symbols, which are tokens wherever they
stand, and keywords, which are tokens unless a word goes on behind them. By its first character a
text is left to few rules.
-/

namespace Proviso.Lexer

open Text (isBlank)

/-! ## Rules by the first character -/

def leaders (char : Char) : List LexerRule :=
  standard.filter fun rule => !rule.automaton.refuses char

theorem next?_eq_leaders (char : Char) (rest : List Char) :
    standard.next? (char :: rest) = (leaders char).findSome? (token? · (char :: rest)) := by
  rw [next?_eq, leaders]
  induction standard with
  | nil => rfl
  | cons rule others induction =>
    cases refuses : rule.automaton.refuses char with
    | true => simp [token?_of_refuses refuses, refuses, induction]
    | false => simp [refuses, List.findSome?_cons, induction]

def leadingTypes : List (List Char × List TokenType) :=
  [(['&'], [.and]), (['|'], [.or]), (['!'], [.relation, .not]), (['('], [.leftParenthesis]),
    ([')'], [.rightParenthesis]), ([','], [.comma]),
    (['t'], [.true, .functionOpen, .identifier]), (['f'], [.false, .functionOpen, .identifier]),
    (['n'], [.null, .functionOpen, .identifier]),
    ("abcdeghijklmopqrsuvwxyzABCDEFGHIJKLMNOPQRSTUVWXYZ_".toList, [.functionOpen, .identifier]),
    ("0123456789-".toList, [.float, .integer])]

theorem leaders_types : leadingTypes.all (fun (chars, types) =>
    chars.all fun char => (leaders char).map (·.type) == types) = true := by
  decide +kernel

theorem types_leaders {chars : List Char} {types : List TokenType} {char : Char}
    (listed : (chars, types) ∈ leadingTypes) (among : char ∈ chars) :
    (leaders char).map (·.type) = types := by
  have each : (chars.all fun char => (leaders char).map (·.type) == types) = true :=
    List.all_eq_true.mp leaders_types _ listed
  rw [List.all_eq_true] at each
  exact beq_iff_eq.mp (each char among)

/-- A token is that of the first rule which can begin with the first character of the text, or of
a later one. -/
theorem next?_eq_first {chars : List Char} {type : TokenType} {types : List TokenType}
    {char : Char} (listed : (chars, type :: types) ∈ leadingTypes) (among : char ∈ chars)
    (rest : List Char) :
    ∃ (rule : LexerRule) (others : List LexerRule), rule ∈ standard ∧ rule.type = type ∧
      (∀ other ∈ others, other ∈ standard) ∧ others.map (·.type) = types ∧
      standard.next? (char :: rest) =
        (token? rule (char :: rest)).or (others.findSome? (token? · (char :: rest))) := by
  have leading := types_leaders listed among
  have known : ∀ rule ∈ leaders char, rule ∈ standard :=
    fun rule member => (List.mem_filter.mp member).1
  rw [next?_eq_leaders]
  rcases List.map_eq_cons_iff.mp leading with ⟨rule, others, equal, isType, otherTypes⟩
  rw [equal] at known ⊢
  rw [List.forall_mem_cons] at known
  refine ⟨rule, others, known.1, isType, known.2, otherTypes, ?_⟩
  rw [List.findSome?_cons]
  cases token? rule (char :: rest) <;> rfl

/-! ## Symbols and keywords -/

/-- The text of the tokens of a type that have only one, wherever they stand. -/
def symbol? : TokenType → Option (List Char)
  | .and => some ['&', '&']
  | .or => some ['|', '|']
  | .not => some ['!']
  | .leftParenthesis => some ['(']
  | .rightParenthesis => some [')']
  | .comma => some [',']
  | _ => none

/-- The text of the tokens of a type that have only one, and end with it as words. -/
def keyword? : TokenType → Option (List Char)
  | .true => some ['t', 'r', 'u', 'e']
  | .false => some ['f', 'a', 'l', 's', 'e']
  | .null => some ['n', 'u', 'l', 'l']
  | _ => none

def relations : Automaton where
  states := #[.accept, .check .textStart 2, .branch 3 5, .step (.single '=') 4,
    .step (.single '=') 0, .branch 6 8, .step (.single '!') 7, .step (.single '=') 0,
    .branch 9 11, .step (.single '>') 10, .step (.single '=') 0, .branch 12 14,
    .step (.single '<') 13, .step (.single '=') 0, .branch 15 16, .step (.single '>') 0,
    .step (.single '<') 0]
  entry := 1
  anchored := true

def isSpelled (rule : LexerRule) : Bool :=
  match symbol? rule.type, keyword? rule.type with
  | some chars, _ =>
    rule.automaton.readsUpTo chars 0 && rule.automaton.states[0]? == some .accept
  | none, some chars =>
    rule.automaton.readsUpTo chars (chars.length + 2) &&
      rule.automaton.states[chars.length + 2]? == some (.check (.wordBoundary false) 0) &&
      rule.automaton.states[0]? == some .accept
  | none, none => rule.type != .relation || rule.automaton == relations

theorem standard_spelled : standard.all isSpelled = true := by
  decide +kernel

theorem automaton_of_relation {rule : LexerRule} (member : rule ∈ standard)
    (isRelation : rule.type = .relation) : rule.automaton = relations := by
  have spelled := List.all_eq_true.mp standard_spelled rule member
  rw [isSpelled, isRelation] at spelled
  exact beq_iff_eq.mp spelled

section

variable {rule : LexerRule} (member : rule ∈ standard) {chars : List Char}

include member

theorem token?_symbol (isSymbol : symbol? rule.type = some chars) (rest : List Char) :
    token? rule (chars ++ rest) = some (chars.length, rule.type) := by
  have spelled := List.all_eq_true.mp standard_spelled rule member
  rw [isSpelled, isSymbol, Bool.and_eq_true, beq_iff_eq] at spelled
  have reads := Automaton.readsUpTo_of_check spelled.1
  rw [token?, reads.find?_append spelled.2]
  exact if_pos (List.length_pos_iff.mpr reads.nonempty)

variable (isKeyword : keyword? rule.type = some chars)

include isKeyword

theorem readsUpTo_keyword : rule.automaton.ReadsUpTo chars (chars.length + 2) ∧
    rule.automaton.states[chars.length + 2]? = some (.check (.wordBoundary false) 0) ∧
    rule.automaton.states[0]? = some .accept ∧
    ∀ char ∈ chars.getLast?, Text.isWord char = true := by
  have spelled := List.all_eq_true.mp standard_spelled rule member
  have noSymbol : symbol? rule.type = none := by
    cases isType : rule.type <;> rw [isType] at isKeyword <;> first | rfl | cases isKeyword
  have isWord : chars.getLast?.all Text.isWord = true := by
    cases isType : rule.type <;> rw [isType] at isKeyword <;> cases isKeyword <;> decide
  rw [isSpelled, noSymbol, isKeyword] at spelled
  simp only [Bool.and_eq_true, beq_iff_eq] at spelled
  exact ⟨Automaton.readsUpTo_of_check spelled.1.1, spelled.1.2, spelled.2,
    fun char isLast => by rwa [Option.mem_def.mp isLast] at isWord⟩

theorem token?_keyword (rest : List Char) :
    token? rule (chars ++ rest) =
      if Assertion.isWordAt false rest.head? then none else some (chars.length, rule.type) := by
  rcases readsUpTo_keyword member isKeyword with ⟨reads, asks, accepts, isWord⟩
  rw [token?, reads.find?_append_of_boundary asks accepts isWord]
  cases Assertion.isWordAt false rest.head? with
  | true => rfl
  | false => exact if_pos (List.length_pos_iff.mpr reads.nonempty)

theorem token?_of_not_keyword {text : List Char} (differs : ¬ chars <+: text) :
    token? rule text = none := by
  rw [token?, (readsUpTo_keyword member isKeyword).1.find?_of_differs differs]

end

/-! ## Tokens -/

/-- Symbols are tokens wherever they stand; for the one that can begin a relation see below. -/
theorem next?_symbol {type : TokenType} {chars : List Char} (isSymbol : symbol? type = some chars)
    (noRelation : type ≠ .not) (rest : List Char) :
    standard.next? (chars ++ rest) = some (chars.length, type) := by
  have leads : ∃ char others, chars = char :: others ∧ ([char], [type]) ∈ leadingTypes := by
    cases type <;> cases isSymbol <;>
      first | exact absurd rfl noRelation | exact ⟨_, _, rfl, by simp [leadingTypes]⟩
  rcases leads with ⟨char, others, rfl, listed⟩
  rcases next?_eq_first listed (List.mem_singleton_self _) (others ++ rest) with
    ⟨rule, _, member, isType, _, _, next⟩
  rw [List.cons_append, next, ← List.cons_append,
    token?_symbol member (isType ▸ isSymbol), isType]
  rfl

/-! ## Relations -/

def relationLength? : List Char → Option Nat
  | [] => none
  | char :: rest =>
    if char ∈ relationStarts then
      if rest.head? = some '=' then some 2 else if char ∈ ['<', '>'] then some 1 else none
    else none

theorem relations_bound : relations.IsBound :=
  Automaton.isBound_of_all rfl (by decide +kernel)

theorem spread_relations : relations.spread (fun _ => true) [⟨1, 0⟩] =
    [⟨1, 0⟩, ⟨3, 0⟩, ⟨6, 0⟩, ⟨9, 0⟩, ⟨12, 0⟩, ⟨15, 0⟩, ⟨16, 0⟩] := by
  decide +kernel

def behindStart (state : Nat) (start : Char) : List Thread :=
  ⟨state, 0⟩ :: if start ∈ ['<', '>'] then [⟨0, 0⟩] else []

theorem exists_behindStart {start : Char} (starts : start ∈ relationStarts) :
    ∃ state, relations.states[state]? = some (.step (.single '=') 0) ∧
      relations.onward start
        [⟨1, 0⟩, ⟨3, 0⟩, ⟨6, 0⟩, ⟨9, 0⟩, ⟨12, 0⟩, ⟨15, 0⟩, ⟨16, 0⟩] = behindStart state start ∧
      relations.spread (fun _ => false) (behindStart state start) = behindStart state start := by
  have each : [('=', 4), ('!', 7), ('<', 13), ('>', 10)].all (fun (start, state) =>
      relations.states[state]? == some (.step (.single '=') 0) &&
        relations.onward start [⟨1, 0⟩, ⟨3, 0⟩, ⟨6, 0⟩, ⟨9, 0⟩, ⟨12, 0⟩, ⟨15, 0⟩, ⟨16, 0⟩] ==
          behindStart state start &&
        relations.spread (fun _ => false) (behindStart state start) ==
          behindStart state start) = true := by
    decide +kernel
  simp only [List.all_eq_true, Prod.forall, Bool.and_eq_true, beq_iff_eq, and_assoc] at each
  have listed : ∃ state, (start, state) ∈ [('=', 4), ('!', 7), ('<', 13), ('>', 10)] := by
    simpa [relationStarts, exists_or] using starts
  exact listed.imp fun state member => each start state member

theorem onward_relations_of_not_start {char : Char} (other : char ∉ relationStarts) :
    relations.onward char [⟨1, 0⟩, ⟨3, 0⟩, ⟨6, 0⟩, ⟨9, 0⟩, ⟨12, 0⟩, ⟨15, 0⟩, ⟨16, 0⟩] = [] := by
  have lost {state next : Nat} {start : Char} {others : List Thread}
      (step : relations.states[state]? = some (.step (.single start) next))
      (starts : start ∈ relationStarts) :
      relations.onward char (⟨state, 0⟩ :: others) = relations.onward char others := by
    have different : (start == char) = false :=
      beq_false_of_ne fun equal => other (equal ▸ starts)
    rw [Automaton.onward_cons_step step, CharClass.contains_single, different]
    rfl
  have listed : [(3, '=', 4), (6, '!', 7), (9, '>', 10), (12, '<', 13), (15, '>', 0),
      (16, '<', 0)].all (fun (state, start, next) =>
        relations.states[state]? == some (.step (.single start) next) &&
          decide (start ∈ relationStarts)) = true := by
    decide +kernel
  change relations.onward char
    (⟨3, 0⟩ :: ⟨6, 0⟩ :: ⟨9, 0⟩ :: ⟨12, 0⟩ :: ⟨15, 0⟩ :: ⟨16, 0⟩ :: []) = _
  simp only [List.all_cons, List.all_nil, Bool.and_eq_true, beq_iff_eq, decide_eq_true_eq] at listed
  rcases listed with ⟨equal, exclamation, greater, less, greaterAlone, lessAlone, _⟩
  rw [lost equal.1 equal.2, lost exclamation.1 exclamation.2, lost greater.1 greater.2,
    lost less.1 less.2, lost greaterAlone.1 greaterAlone.2, lost lessAlone.1 lessAlone.2]
  rfl

theorem searchFrom_behindStart {state : Nat} {start : Char}
    (waits : relations.states[state]? = some (.step (.single '=') 0))
    (stays : relations.spread (fun _ => false) (behindStart state start) = behindStart state start)
    (delayed : Bool) (rest : List Char) :
    relations.searchFrom delayed 1 (some start) (behindStart state start) none rest =
      some (if rest.head? = some '=' then some ⟨0, 2⟩
        else if start ∈ ['<', '>'] then some ⟨0, 1⟩ else none) := by
  have accepted : relations.accepted? 1 (behindStart state start) =
      if start ∈ ['<', '>'] then some ⟨0, 1⟩ else none := by
    rw [behindStart, Automaton.accepted?_cons_step waits]
    split <;> rfl
  have onward (char : Char) : relations.onward char (behindStart state start) =
      if char = '=' then [⟨0, 0⟩] else [] := by
    have finished : relations.onward char (if start ∈ ['<', '>'] then [⟨0, 0⟩] else []) = [] := by
      split <;> rfl
    rw [behindStart, Automaton.onward_cons_step waits, finished, CharClass.contains_single]
    by_cases isEqual : char = '='
    · simp [isEqual]
    · simp [isEqual, Ne.symm isEqual]
  have complete (found : Option Match) (text : List Char) :
      relations.searchFrom delayed 2 (some '=') [⟨0, 0⟩] found text = some (some ⟨0, 2⟩) := by
    have opened : relations.spread (fun _ => false) [⟨0, 0⟩] = [⟨0, 0⟩] := by decide +kernel
    cases text with
    | nil => exact relations_bound.searchFrom_nil opened ..
    | cons char text =>
      rw [relations_bound.searchFrom_cons opened]
      exact relations_bound.searchFrom_no_threads ..
  cases rest with
  | nil =>
    rw [relations_bound.searchFrom_nil stays, accepted]
    simp
  | cons char rest =>
    rw [relations_bound.searchFrom_cons stays, accepted, onward]
    by_cases isEqual : char = '='
    · subst isEqual
      exact complete _ rest
    · by_cases ends : start ∈ ['<', '>'] <;>
        simp [isEqual, ends, relations_bound.searchFrom_no_threads]

theorem find?_relations (char : Char) (rest : List Char) :
    relations.find? (char :: rest) = (relationLength? (char :: rest)).map (⟨0, ·⟩) := by
  rw [relationLength?]
  by_cases starts : char ∈ relationStarts
  · rcases exists_behindStart starts with ⟨state, waits, onward, stays⟩
    rw [relations_bound.find?_cons spread_relations rfl onward fun delayed =>
      searchFrom_behindStart waits stays delayed rest, if_pos starts]
    simp only [apply_ite (Option.map _), Option.map_some, Option.map_none]
  · rw [if_neg starts]
    exact relations_bound.find?_cons spread_relations rfl (onward_relations_of_not_start starts)
      fun delayed => relations_bound.searchFrom_no_threads ..

theorem exists_text_of_relationLength? {text : List Char} {count : Nat}
    (isLength : relationLength? text = some count) :
    ∃ relation : Relation, text.take count = relation.text.toList := by
  rcases text with _ | ⟨start, rest⟩
  · cases isLength
  rw [relationLength?] at isLength
  split at isLength
  case isFalse => cases isLength
  case isTrue starts =>
    split at isLength
    case isTrue continues =>
      rcases List.head?_eq_some_iff.mp continues with ⟨others, rfl⟩
      cases isLength
      simp only [relationStarts, List.mem_cons, List.not_mem_nil, or_false] at starts
      rcases starts with rfl | rfl | rfl | rfl
      · exact ⟨.equal, rfl⟩
      · exact ⟨.notEqual, rfl⟩
      · exact ⟨.lessOrEqual, rfl⟩
      · exact ⟨.greaterOrEqual, rfl⟩
    case isFalse =>
      split at isLength
      case isFalse => cases isLength
      case isTrue ends =>
        cases isLength
        simp only [List.mem_cons, List.not_mem_nil, or_false] at ends
        rcases ends with rfl | rfl
        · exact ⟨.less, rfl⟩
        · exact ⟨.greater, rfl⟩

theorem exists_text_of_next? {text : List Char} {count : Nat}
    (next : standard.next? text = some (count, .relation)) :
    ∃ relation : Relation, text.take count = relation.text.toList := by
  rcases text with _ | ⟨char, rest⟩
  · rcases count_of_next? next with ⟨positive, within⟩
    exact absurd (Nat.le_zero.mp within) (Nat.ne_of_gt positive)
  rw [next?_eq] at next
  rcases List.exists_of_findSome?_eq_some next with ⟨rule, member, taken⟩
  have isRelation := type_of_token? taken
  rw [token?, automaton_of_relation member isRelation, find?_relations] at taken
  cases isLength : relationLength? (char :: rest) with
  | none =>
    rw [isLength] at taken
    cases taken
  | some length =>
    rw [isLength] at taken
    simp only [Option.map_some] at taken
    split at taken
    case isTrue =>
      rcases Prod.mk.inj (Option.some.inj taken) with ⟨rfl, _⟩
      exact exists_text_of_relationLength? isLength
    case isFalse => cases taken

theorem next?_not {rest : List Char} (alone : rest.head? ≠ some '=') :
    standard.next? ('!' :: rest) = some (1, .not) := by
  have listed : (['!'], [TokenType.relation, .not]) ∈ leadingTypes := by simp [leadingTypes]
  rcases next?_eq_first listed (List.mem_singleton_self _) rest with
    ⟨relation, others, member, isRelation, known, otherTypes, next⟩
  rcases List.map_eq_singleton_iff.mp otherTypes with ⟨rule, rfl, isNot⟩
  have isSymbol : symbol? rule.type = some ['!'] := by rw [isNot]; rfl
  have taken := token?_symbol (known rule (List.mem_singleton_self _)) isSymbol rest
  have noRelation : relationLength? ('!' :: rest) = none := by
    simp [relationLength?, alone]
  rw [next, token?, automaton_of_relation member isRelation, find?_relations, noRelation,
    Option.map_none, Option.none_or, List.findSome?_cons]
  rw [List.singleton_append, isNot] at taken
  rw [taken]
  rfl

theorem next?_keyword {type : TokenType} {chars : List Char}
    (isKeyword : keyword? type = some chars) {rest : List Char}
    (ends : Assertion.isWordAt false rest.head? = false) :
    standard.next? (chars ++ rest) = some (chars.length, type) := by
  have leads : ∃ char others, chars = char :: others ∧
      ([char], [type, .functionOpen, .identifier]) ∈ leadingTypes := by
    cases type <;> cases isKeyword <;> exact ⟨_, _, rfl, by simp [leadingTypes]⟩
  rcases leads with ⟨char, others, rfl, listed⟩
  rcases next?_eq_first listed (List.mem_singleton_self _) (others ++ rest) with
    ⟨rule, _, member, isType, _, _, next⟩
  rw [List.cons_append, next, ← List.cons_append,
    token?_keyword member (isType ▸ isKeyword), ends, isType]
  rfl

end Proviso.Lexer
