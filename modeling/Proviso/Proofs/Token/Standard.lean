import Proviso.Proofs.Pattern.Search
import Proviso.Token.Lexer

/-!
The rules of the language on texts that go on. White space takes all blanks that there are, and a
quoted text ends with the first quote that is not escaped. No other token begins with a quote or
reaches over a blank and what can begin a relation.
-/

namespace Proviso.Lexer

open Text (isBlank)

/-! ## White space -/

def blanks : Automaton where
  states := #[.accept, .check .textStart 3, .branch 3 0, .step .blank 2]
  entry := 1
  anchored := true

theorem blanks_bound : blanks.IsBound :=
  Automaton.isBound_of_all rfl (by decide +kernel)

theorem onward_blanks (char : Char) :
    blanks.onward char [⟨3, 0⟩, ⟨0, 0⟩] = if isBlank char then [⟨2, 0⟩] else [] := by
  have advanced : blanks.advance char ⟨3, 0⟩ = if isBlank char then some ⟨2, 0⟩ else none := rfl
  change [⟨3, 0⟩].filterMap (blanks.advance char) = _
  rw [List.filterMap_cons, advanced]
  cases isBlank char <;> rfl

theorem searchFrom_blanks (delayed : Bool) (position : Nat) (before : Char) (found : Option Match)
    (text : List Char) :
    blanks.searchFrom delayed position (some before) [⟨2, 0⟩] found text =
      some (some ⟨0, position + (text.takeWhile isBlank).length⟩) := by
  have opened : blanks.spread (fun _ => false) [⟨2, 0⟩] = [⟨3, 0⟩, ⟨0, 0⟩] := by decide +kernel
  have accepted (position : Nat) :
      blanks.accepted? position [⟨3, 0⟩, ⟨0, 0⟩] = some ⟨0, position⟩ :=
    rfl
  induction text generalizing position before found with
  | nil => rw [blanks_bound.searchFrom_nil opened, accepted]; rfl
  | cons char rest induction =>
    rw [blanks_bound.searchFrom_cons opened, onward_blanks, accepted]
    cases blank : isBlank char with
    | false => simp [blank, blanks_bound.searchFrom_no_threads]
    | true => simp [blank, induction]; omega

theorem find?_blanks (char : Char) (rest : List Char) :
    blanks.find? (char :: rest) =
      if isBlank char then some ⟨0, 1 + (rest.takeWhile isBlank).length⟩ else none := by
  have opened : blanks.spread (fun _ => true) [⟨1, 0⟩] = [⟨1, 0⟩, ⟨3, 0⟩] := by decide +kernel
  have onward : blanks.onward char [⟨1, 0⟩, ⟨3, 0⟩] = if isBlank char then [⟨2, 0⟩] else [] :=
    onward_blanks char
  refine blanks_bound.find?_cons opened rfl onward fun delayed => ?_
  cases isBlank char with
  | false => exact blanks_bound.searchFrom_no_threads ..
  | true => exact searchFrom_blanks ..

/-! ## Quoted texts -/

def plainBetween (quote : Char) : CharClass :=
  .ranges [(0, quote.toNat - 1), (quote.toNat + 1, 0x5B), (0x5D, 0x10FFFF)]

def escapable : CharClass :=
  .ranges [(0, 9), (11, 0x10FFFF)]

def quoted : Automaton where
  states := #[.accept, .check .textStart 2, .branch 3 10,
    .step (.single '"') 4, .branch 5 9, .branch 6 7, .step (plainBetween '"') 4,
    .step (.single '\\') 8, .step escapable 4, .step (.single '"') 0,
    .step (.single '\'') 11, .branch 12 16, .branch 13 14, .step (plainBetween '\'') 11,
    .step (.single '\\') 15, .step escapable 11, .step (.single '\'') 0]
  entry := 1
  anchored := true

theorem quoted_bound : quoted.IsBound :=
  Automaton.isBound_of_all rfl (by decide +kernel)

theorem toNat_eq_iff {char other : Char} : char.toNat = other.toNat ↔ char = other :=
  ⟨fun same => Char.ext (UInt32.toNat_inj.mp same), fun same => same ▸ rfl⟩

theorem toNat_le (char : Char) : char.toNat ≤ 0x10FFFF := by
  rcases char.valid with small | ⟨_, small⟩
  · exact Nat.le_trans (Nat.le_of_lt small) (by decide)
  · exact Nat.le_of_lt_succ small

theorem contains_plainBetween {quote : Char} (positive : 0 < quote.toNat)
    (small : quote.toNat < 0x5B) (char : Char) :
    (plainBetween quote).contains char = (char != quote && char != '\\') := by
  have ascending : Text.CodeRanges.Ascending
      [(0, quote.toNat - 1), (quote.toNat + 1, 0x5B), (0x5D, 0x10FFFF)] :=
    ⟨Nat.zero_le _, by omega, by omega, by decide, by decide⟩
  have isQuote : char = quote ↔ char.toNat = quote.toNat := toNat_eq_iff.symm
  have isSlash : char = '\\' ↔ char.toNat = 0x5C := toNat_eq_iff.symm
  have bound := toNat_le char
  rw [Bool.eq_iff_iff, Bool.and_eq_true, bne_iff_ne, bne_iff_ne, Ne, Ne, isQuote, isSlash,
    plainBetween, CharClass.contains, CharClass.holds, Text.CodeRanges.holds_iff ascending]
  simp only [List.mem_cons, List.not_mem_nil, or_false, exists_eq_or_imp, exists_eq_left]
  omega

theorem contains_escapable (char : Char) : escapable.contains char = (char != '\n') := by
  have ascending : Text.CodeRanges.Ascending [(0, 9), (11, 0x10FFFF)] := by decide
  have isLine : char = '\n' ↔ char.toNat = 10 := toNat_eq_iff.symm
  have bound := toNat_le char
  rw [Bool.eq_iff_iff, bne_iff_ne, Ne, isLine, escapable, CharClass.contains, CharClass.holds,
    Text.CodeRanges.holds_iff ascending]
  simp only [List.mem_cons, List.not_mem_nil, or_false, exists_eq_or_imp, exists_eq_left]
  omega

/-- The number of characters to the end of a quoted text, behind its first quote. The flag tells
whether a backslash has just gone before. -/
def quotedLength? (quote : Char) : Bool → List Char → Option Nat
  | _, [] => none
  | true, char :: rest =>
    if char = '\n' then none else (quotedLength? quote false rest).map (· + 1)
  | false, char :: rest =>
    if char = quote then some 1 else (quotedLength? quote (char == '\\') rest).map (· + 1)

theorem quotedLength?_append {quote : Char} {escaped : Bool} {text : List Char} {count : Nat}
    (closes : quotedLength? quote escaped text = some count) (rest : List Char) :
    quotedLength? quote escaped (text ++ rest) = some count := by
  induction text generalizing escaped count with
  | nil => cases escaped <;> cases closes
  | cons char others induction =>
    cases escaped with
    | true =>
      simp only [quotedLength?, List.cons_append] at closes ⊢
      split at closes
      case isTrue => cases closes
      case isFalse notLine =>
        rcases Option.map_eq_some_iff.mp closes with ⟨before, closed, rfl⟩
        rw [if_neg notLine, induction closed]
        rfl
    | false =>
      simp only [quotedLength?, List.cons_append] at closes ⊢
      split at closes
      case isTrue isQuote =>
        cases closes
        exact if_pos isQuote
      case isFalse notQuote =>
        rcases Option.map_eq_some_iff.mp closes with ⟨before, closed, rfl⟩
        rw [if_neg notQuote, induction closed]
        rfl

/-- The states of the automaton inside a text between quotes of one kind: the one behind a plain
character, the one behind a backslash, and the steps that are open to the first of them. -/
structure Quotes (quote : Char) (inside escaped plain slash close : Nat) : Prop where
  positive : 0 < quote.toNat
  small : quote.toNat < 0x5B
  insideOpens : quoted.spread (fun _ => false) [⟨inside, 0⟩] = [⟨plain, 0⟩, ⟨slash, 0⟩, ⟨close, 0⟩]
  escapedOpens : quoted.spread (fun _ => false) [⟨escaped, 0⟩] = [⟨escaped, 0⟩]
  plainState : quoted.states[plain]? = some (.step (plainBetween quote) inside)
  slashState : quoted.states[slash]? = some (.step (.single '\\') escaped)
  closeState : quoted.states[close]? = some (.step (.single quote) 0)
  escapedState : quoted.states[escaped]? = some (.step escapable inside)

theorem quotes_double : Quotes '"' 4 8 6 7 9 := by
  constructor <;> decide +kernel

theorem quotes_single : Quotes '\'' 11 15 13 14 16 := by
  constructor <;> decide +kernel

namespace Quotes

variable {quote : Char} {inside escaped plain slash close : Nat}
  (quotes : Quotes quote inside escaped plain slash close)

include quotes

theorem onward_inside (char : Char) :
    quoted.onward char [⟨plain, 0⟩, ⟨slash, 0⟩, ⟨close, 0⟩] =
      [⟨if char = quote then 0 else if char = '\\' then escaped else inside, 0⟩] := by
  have noThread : quoted.onward char [] = [] := rfl
  have notSlash : quote ≠ '\\' := by
    rintro rfl
    exact absurd quotes.small (by decide)
  rw [Automaton.onward_cons_step quotes.plainState, Automaton.onward_cons_step quotes.slashState,
    Automaton.onward_cons_step quotes.closeState, noThread,
    contains_plainBetween quotes.positive quotes.small, CharClass.contains_single,
    CharClass.contains_single]
  by_cases isQuote : char = quote
  · simp [isQuote, notSlash.symm]
  · by_cases isSlash : char = '\\'
    · simp [isSlash, notSlash, notSlash.symm]
    · simp [isQuote, isSlash, Ne.symm isQuote, Ne.symm isSlash]

theorem onward_escaped (char : Char) :
    quoted.onward char [⟨escaped, 0⟩] = if char = '\n' then [] else [⟨inside, 0⟩] := by
  have noThread : quoted.onward char [] = [] := rfl
  rw [Automaton.onward_cons_step quotes.escapedState, noThread, contains_escapable]
  by_cases isLine : char = '\n' <;> simp [isLine]

theorem searchFrom_eq (delayed : Bool) (position : Nat) (before : Char) (afterSlash : Bool)
    (text : List Char) :
    quoted.searchFrom delayed position (some before)
        [⟨if afterSlash then escaped else inside, 0⟩] none text =
      some ((quotedLength? quote afterSlash text).map fun count => ⟨0, position + count⟩) := by
  have closes (position : Nat) (before : Char) (text : List Char) :
      quoted.searchFrom delayed position (some before) [⟨0, 0⟩] none text =
        some (some ⟨0, position⟩) := by
    have opened : quoted.spread (fun _ => false) [⟨0, 0⟩] = [⟨0, 0⟩] := by decide +kernel
    cases text with
    | nil => rw [quoted_bound.searchFrom_nil opened]; rfl
    | cons char rest =>
      rw [quoted_bound.searchFrom_cons opened]
      exact quoted_bound.searchFrom_no_threads ..
  have insideAccepts (position : Nat) :
      quoted.accepted? position [⟨plain, 0⟩, ⟨slash, 0⟩, ⟨close, 0⟩] = none := by
    rw [Automaton.accepted?_cons_step quotes.plainState,
      Automaton.accepted?_cons_step quotes.slashState,
      Automaton.accepted?_cons_step quotes.closeState]
    rfl
  have escapedAccepts (position : Nat) : quoted.accepted? position [⟨escaped, 0⟩] = none := by
    rw [Automaton.accepted?_cons_step quotes.escapedState]
    rfl
  induction text generalizing position before afterSlash with
  | nil =>
    cases afterSlash with
    | true =>
      change quoted.searchFrom delayed position (some before) [⟨escaped, 0⟩] none [] = _
      rw [quoted_bound.searchFrom_nil quotes.escapedOpens, escapedAccepts]
      rfl
    | false =>
      change quoted.searchFrom delayed position (some before) [⟨inside, 0⟩] none [] = _
      rw [quoted_bound.searchFrom_nil quotes.insideOpens, insideAccepts]
      rfl
  | cons char rest induction =>
    cases afterSlash with
    | true =>
      change quoted.searchFrom delayed position (some before) [⟨escaped, 0⟩] none (char :: rest) = _
      rw [quoted_bound.searchFrom_cons quotes.escapedOpens, escapedAccepts, quotes.onward_escaped,
        quotedLength?]
      by_cases isLine : char = '\n'
      · simp [isLine]
      · have onward := induction (position + 1) char false
        simp only [Bool.false_eq_true, if_false] at onward
        simp [isLine, onward, Function.comp_def, Nat.add_assoc, Nat.add_comm 1]
    | false =>
      change quoted.searchFrom delayed position (some before) [⟨inside, 0⟩] none (char :: rest) = _
      rw [quoted_bound.searchFrom_cons quotes.insideOpens, insideAccepts, quotes.onward_inside,
        quotedLength?]
      by_cases isQuote : char = quote
      · simp [isQuote, closes]
      · have onward := induction (position + 1) char (char == '\\')
        simp only [beq_iff_eq] at onward
        simp [isQuote, onward, Function.comp_def, Nat.add_assoc, Nat.add_comm 1]

end Quotes

/-- A match begins with a quote and ends with the one that closes the text. -/
theorem find?_quoted (char : Char) (rest : List Char) :
    quoted.find? (char :: rest) =
      if char = '"' ∨ char = '\'' then
        (quotedLength? char false rest).map fun count => ⟨0, 1 + count⟩
      else none := by
  have opened : quoted.spread (fun _ => true) [⟨1, 0⟩] = [⟨1, 0⟩, ⟨3, 0⟩, ⟨10, 0⟩] := by
    decide +kernel
  have onward : quoted.onward char [⟨1, 0⟩, ⟨3, 0⟩, ⟨10, 0⟩] =
      if char = '"' then [⟨4, 0⟩] else if char = '\'' then [⟨11, 0⟩] else [] := by
    have double : quoted.states[3]? = some (.step (.single '"') 4) := by decide +kernel
    have single : quoted.states[10]? = some (.step (.single '\'') 11) := by decide +kernel
    change quoted.onward char (⟨3, 0⟩ :: ⟨10, 0⟩ :: []) = _
    rw [Automaton.onward_cons_step double, Automaton.onward_cons_step single,
      CharClass.contains_single, CharClass.contains_single]
    by_cases isDouble : char = '"'
    · subst isDouble
      rfl
    · by_cases isSingle : char = '\''
      · subst isSingle
        rfl
      · simp [isDouble, isSingle, Ne.symm isDouble, Ne.symm isSingle, Automaton.onward]
  refine quoted_bound.find?_cons opened rfl onward fun delayed => ?_
  by_cases isDouble : char = '"'
  · subst isDouble
    exact quotes_double.searchFrom_eq delayed 1 '"' false rest
  · by_cases isSingle : char = '\''
    · subst isSingle
      exact quotes_single.searchFrom_eq delayed 1 '\'' false rest
    · simp [isDouble, isSingle, quoted_bound.searchFrom_no_threads]

/-! ## Rules -/

def relationStarts : List Char :=
  ['=', '!', '<', '>']

/-- What can be seen from the automata of the rules. White space and texts have their own. Any
other token does not begin with a quote; it stops in front of a blank and the start of a relation,
and if it can begin like a relation, in front of any blank. -/
def isTame (rule : LexerRule) : Bool :=
  match rule.type with
  | .whitespace => rule.automaton = blanks
  | .string => rule.automaton = quoted
  | _ =>
    rule.automaton.refuses '"' && rule.automaton.refuses '\'' &&
      relationStarts.all fun start =>
        rule.automaton.stopsAt ' ' (some start) &&
          (rule.automaton.refuses start || rule.automaton.ignoresAll ' ')

theorem standard_tame :
    standard.all isTame = true ∧ (standard.head?.map (·.type)) = some .whitespace ∧
      standard.tail.all (·.type != .whitespace) = true ∧
      standard.any (·.type == .string) = true := by
  decide +kernel

def token? (rule : LexerRule) (text : List Char) : Option (Nat × TokenType) :=
  match rule.automaton.find? text with
  | some found => if found.start < found.stop then some (found.stop, rule.type) else none
  | none => none

theorem next?_eq (lexer : Lexer) (text : List Char) :
    lexer.next? text = lexer.findSome? (token? · text) :=
  rfl

theorem type_of_token? {rule : LexerRule} {text : List Char} {count : Nat} {type : TokenType}
    (taken : token? rule text = some (count, type)) : rule.type = type := by
  rw [token?] at taken
  split at taken
  case h_1 =>
    split at taken
    case isTrue => exact congrArg Prod.snd (Option.some.inj taken)
    case isFalse => cases taken
  case h_2 => cases taken

theorem token?_congr {rule : LexerRule} {text other : List Char}
    (same : rule.automaton.find? text = rule.automaton.find? other) :
    token? rule text = token? rule other := by
  rw [token?, token?, same]

theorem token?_of_refuses {rule : LexerRule} {char : Char}
    (refuses : rule.automaton.refuses char = true) (rest : List Char) :
    token? rule (char :: rest) = none := by
  rw [token?, Automaton.find?_eq_none_of_refuses refuses]

theorem isTame_of_mem {rule : LexerRule} (member : rule ∈ standard) : isTame rule = true :=
  List.all_eq_true.mp standard_tame.1 rule member

theorem standard_eq_cons : ∃ first others, standard = first :: others ∧ first.type = .whitespace ∧
    ∀ rule ∈ others, rule.type ≠ .whitespace := by
  rcases standard_tame with ⟨_, first, others, _⟩
  cases rules : standard with
  | nil => simp [rules] at first
  | cons rule rest =>
    rw [rules] at first others
    exact ⟨rule, rest, rfl, Option.some.inj first, fun other member =>
      bne_iff_ne.mp (List.all_eq_true.mp others other member)⟩

theorem automaton_of_whitespace {rule : LexerRule} (member : rule ∈ standard)
    (isWhitespace : rule.type = .whitespace) : rule.automaton = blanks := by
  have tame := isTame_of_mem member
  rw [isTame, isWhitespace] at tame
  exact of_decide_eq_true tame

theorem automaton_of_string {rule : LexerRule} (member : rule ∈ standard)
    (isString : rule.type = .string) : rule.automaton = quoted := by
  have tame := isTame_of_mem member
  rw [isTame, isString] at tame
  exact of_decide_eq_true tame

structure IsOrdinary (rule : LexerRule) : Prop where
  refuses : ∀ quote, quote = '"' ∨ quote = '\'' → rule.automaton.refuses quote = true
  stops : ∀ start ∈ relationStarts, rule.automaton.StopsAt ' ' (some start)
  begins : ∀ start ∈ relationStarts, rule.automaton.refuses start = true ∨
    ∀ next, rule.automaton.StopsAt ' ' next

theorem isOrdinary_of_type {rule : LexerRule} (member : rule ∈ standard)
    (noWhitespace : rule.type ≠ .whitespace) (noString : rule.type ≠ .string) :
    IsOrdinary rule := by
  have tame := isTame_of_mem member
  unfold isTame at tame
  split at tame
  case h_1 isWhitespace => exact absurd isWhitespace noWhitespace
  case h_2 isString => exact absurd isString noString
  case h_3 =>
    rw [Bool.and_eq_true, Bool.and_eq_true, List.all_eq_true] at tame
    rcases tame with ⟨⟨double, single⟩, starts⟩
    constructor
    case refuses =>
      rintro quote (rfl | rfl)
      · exact double
      · exact single
    case stops =>
      intro start member
      exact Automaton.stopsAt_of_check (Bool.and_eq_true_iff.mp (starts start member)).1
    case begins =>
      intro start member
      rcases Bool.or_eq_true_iff.mp (Bool.and_eq_true_iff.mp (starts start member)).2 with
        refuses | ignores
      · exact .inl refuses
      · exact .inr (Automaton.stopsAt_of_ignoresAll ignores)

theorem findSome?_eq_of_only {α β : Type} {entries : List α} {find : α → Option β}
    {result : Option β} (only : ∀ entry ∈ entries, find entry = none ∨ find entry = result)
    (exists_entry : ∃ entry ∈ entries, find entry = result) : entries.findSome? find = result := by
  cases result with
  | none =>
    rw [List.findSome?_eq_none_iff]
    exact fun entry member => (only entry member).elim id id
  | some value =>
    cases found : entries.findSome? find with
    | none =>
      rcases exists_entry with ⟨entry, member, equal⟩
      rw [List.findSome?_eq_none_iff.mp found entry member] at equal
      cases equal
    | some other =>
      rcases List.exists_of_findSome?_eq_some found with ⟨entry, member, equal⟩
      rcases only entry member with nothing | same
      · rw [nothing] at equal
        cases equal
      · rw [← equal, same]

theorem next?_of_isBlank {char : Char} (blank : isBlank char = true) (rest : List Char) :
    standard.next? (char :: rest) = some (1 + (rest.takeWhile isBlank).length, .whitespace) := by
  rcases standard_eq_cons with ⟨first, others, rules, isWhitespace, _⟩
  have member : first ∈ standard := rules ▸ List.mem_cons_self ..
  have taken : token? first (char :: rest) =
      some (1 + (rest.takeWhile isBlank).length, .whitespace) := by
    rw [token?, automaton_of_whitespace member isWhitespace, find?_blanks, if_pos blank,
      isWhitespace]
    exact if_pos (by dsimp only; omega)
  rw [rules, next?_eq, List.findSome?_cons, taken]

theorem isBlank_of_next? {char : Char} {rest : List Char} {count : Nat}
    (next : standard.next? (char :: rest) = some (count, .whitespace)) : isBlank char = true := by
  rcases List.exists_of_findSome?_eq_some next with ⟨rule, member, taken⟩
  change token? rule (char :: rest) = some (count, .whitespace) at taken
  have isWhitespace : rule.type = .whitespace := by
    rw [token?] at taken
    split at taken
    case h_1 =>
      split at taken
      case isTrue => exact congrArg Prod.snd (Option.some.inj taken)
      case isFalse => cases taken
    case h_2 => cases taken
  refine Decidable.byContradiction fun notBlank => ?_
  rw [token?, automaton_of_whitespace member isWhitespace, find?_blanks, if_neg notBlank] at taken
  cases taken

theorem next?_of_quote {quote : Char} (isQuote : quote = '"' ∨ quote = '\'') (rest : List Char) :
    standard.next? (quote :: rest) =
      (quotedLength? quote false rest).map fun count => (1 + count, .string) := by
  have notBlank : isBlank quote = false := by
    rcases isQuote with rfl | rfl <;> decide
  have ofString {rule : LexerRule} (member : rule ∈ standard) (isString : rule.type = .string) :
      token? rule (quote :: rest) =
        (quotedLength? quote false rest).map fun count => (1 + count, .string) := by
    rw [token?, automaton_of_string member isString, find?_quoted, if_pos isQuote, isString]
    cases quotedLength? quote false rest <;> simp
  have only : ∀ rule ∈ standard, token? rule (quote :: rest) = none ∨ token? rule (quote :: rest) =
      (quotedLength? quote false rest).map fun count => (1 + count, .string) := by
    intro rule member
    by_cases isWhitespace : rule.type = .whitespace
    · rw [token?, automaton_of_whitespace member isWhitespace, find?_blanks]
      simp [notBlank]
    · by_cases isString : rule.type = .string
      · exact .inr (ofString member isString)
      · have ordinary := isOrdinary_of_type member isWhitespace isString
        exact .inl (token?_of_refuses (ordinary.refuses quote isQuote) rest)
  rcases List.any_eq_true.mp standard_tame.2.2.2 with ⟨rule, member, isString⟩
  exact findSome?_eq_of_only only ⟨rule, member, ofString member (beq_iff_eq.mp isString)⟩

theorem next?_congr {lexer : Lexer} {text other : List Char}
    (same : ∀ rule ∈ lexer, token? rule text = token? rule other) :
    lexer.next? text = lexer.next? other := by
  rw [next?_eq, next?_eq]
  induction lexer with
  | nil => rfl
  | cons rule rest induction =>
    rw [List.forall_mem_cons] at same
    rw [List.findSome?_cons, List.findSome?_cons, same.1, induction same.2]

/-- In front of neither a blank nor a quote only the ordinary rules count. -/
theorem next?_eq_of_ordinary {char : Char} {rest other : List Char}
    (notBlank : ¬ isBlank char = true) (notQuote : ¬ (char = '"' ∨ char = '\''))
    (same : ∀ rule, IsOrdinary rule → token? rule (char :: rest) = token? rule (char :: other)) :
    standard.next? (char :: rest) = standard.next? (char :: other) := by
  refine next?_congr fun rule member => ?_
  by_cases isWhitespace : rule.type = .whitespace
  · refine token?_congr ?_
    rw [automaton_of_whitespace member isWhitespace, find?_blanks, find?_blanks, if_neg notBlank,
      if_neg notBlank]
  by_cases isString : rule.type = .string
  · refine token?_congr ?_
    rw [automaton_of_string member isString, find?_quoted, find?_quoted, if_neg notQuote,
      if_neg notQuote]
  · exact same rule (isOrdinary_of_type member isWhitespace isString)

theorem takeWhile_append_of_length_lt {text rest : List Char} {holds : Char → Bool}
    (ends : (text.takeWhile holds).length < text.length) :
    (text ++ rest).takeWhile holds = text.takeWhile holds := by
  rw [List.takeWhile_append, if_neg (Nat.ne_of_lt ends)]

/-- A token is the same where the text goes on with a blank and the start of a relation, unless it
is white space at the end. -/
theorem next?_append {start : Char} {text rest : List Char} {count : Nat} {type : TokenType}
    (starts : start ∈ relationStarts) (nonempty : text ≠ [])
    (next : standard.next? text = some (count, type))
    (inner : type = .whitespace → count < text.length) :
    standard.next? (text ++ ' ' :: start :: rest) = some (count, type) := by
  rcases text with _ | ⟨char, text⟩
  · exact absurd rfl nonempty
  by_cases blank : isBlank char = true
  · rw [next?_of_isBlank blank] at next
    cases next
    have ends : (text.takeWhile isBlank).length < text.length := by
      have counted := inner rfl
      rw [List.length_cons] at counted
      omega
    rw [List.cons_append, next?_of_isBlank blank, takeWhile_append_of_length_lt ends]
  by_cases isQuote : char = '"' ∨ char = '\''
  · rw [next?_of_quote isQuote] at next
    rcases Option.map_eq_some_iff.mp next with ⟨length, closes, equal⟩
    rw [List.cons_append, next?_of_quote isQuote, quotedLength?_append closes, ← equal]
    rfl
  rw [← next]
  exact next?_eq_of_ordinary blank isQuote fun rule ordinary =>
    token?_congr ((ordinary.stops start starts).find?_append (char :: text))

theorem plain_of_mem_relationStarts {start : Char} (starts : start ∈ relationStarts) :
    isBlank start = false ∧ ¬ (start = '"' ∨ start = '\'') := by
  have each : relationStarts.all (fun start =>
      !isBlank start && !(start == '"' || start == '\'')) = true := by
    decide
  simpa using List.all_eq_true.mp each start starts

theorem next?_append_blank {start : Char} {text rest : List Char} {count : Nat}
    (starts : start ∈ relationStarts) (nonempty : text ≠ [])
    (next : standard.next? text = some (count, .whitespace)) (outer : text.length ≤ count) :
    standard.next? (text ++ ' ' :: start :: rest) = some (text.length + 1, .whitespace) := by
  rcases text with _ | ⟨char, text⟩
  · exact absurd rfl nonempty
  have blank := isBlank_of_next? next
  have notBlank := (plain_of_mem_relationStarts starts).1
  rw [next?_of_isBlank blank] at next
  cases next
  rw [List.length_cons] at outer
  have isPrefix : text.takeWhile isBlank <+: text := List.takeWhile_prefix isBlank
  have all : text.takeWhile isBlank = text :=
    isPrefix.eq_of_length (Nat.le_antisymm isPrefix.length_le (by omega))
  rw [List.cons_append, next?_of_isBlank blank, List.takeWhile_append, if_pos (congrArg _ all)]
  simp [notBlank, show isBlank ' ' = true from rfl, Nat.add_comm]

theorem next?_relation_alone (relation : Relation) :
    standard.next? relation.text.toList = some (relation.text.toList.length, .relation) := by
  have each : ∀ relation ∈ [Relation.equal, .notEqual, .greater, .greaterOrEqual, .less,
      .lessOrEqual], standard.next? relation.text.toList =
        some (relation.text.toList.length, .relation) := by
    decide +kernel
  exact each relation (by cases relation <;> decide)

theorem relation_starts (relation : Relation) :
    ∃ start others, relation.text.toList = start :: others ∧ start ∈ relationStarts := by
  cases relation <;> exact ⟨_, _, rfl, by decide⟩

theorem next?_relation (relation : Relation) (rest : List Char) :
    standard.next? (relation.text.toList ++ ' ' :: rest) =
      some (relation.text.toList.length, .relation) := by
  rw [← next?_relation_alone relation]
  rcases relation_starts relation with ⟨start, others, text, starts⟩
  rcases plain_of_mem_relationStarts starts with ⟨notBlank, notQuote⟩
  rw [text, List.cons_append]
  refine next?_eq_of_ordinary (by simp [notBlank]) notQuote fun rule ordinary => ?_
  rcases ordinary.begins start starts with refuses | stops
  · rw [token?_of_refuses refuses, token?_of_refuses refuses]
  · exact token?_congr ((stops rest.head?).find?_append (start :: others))

end Proviso.Lexer
