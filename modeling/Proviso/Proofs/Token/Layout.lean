import Proviso.Proofs.Pattern.Exploration
import Proviso.Proofs.Token.Tiling
import Proviso.Proofs.Token.Written

/-!
White space between the words of a text. A token is cut off a text in the same way wherever nothing
or a blank stands behind it: no rule looks over a blank, but for the one that finds the parenthesis
of a call, and it sees the first character that is no blank. So the words of a text, laid out with
other white space between them, are the words of the new text and mean the same.
-/

namespace Proviso.Lexer

open Outcome

open Text (byteLength isBlank isWord dropWhile_eq_self)

def visible? (text : List Char) : Option Char :=
  (text.dropWhile isBlank).head?

theorem visible?_of_not_blank {char : Char} (notBlank : ¬ isBlank char = true) (rest : List Char) :
    visible? (char :: rest) = some char := by
  rw [visible?, List.dropWhile_cons, if_neg notBlank, List.head?_cons]

theorem visible?_append_of_blank {gap : List Char} (allBlank : ∀ char ∈ gap, isBlank char = true)
    (rest : List Char) : visible? (gap ++ rest) = visible? rest := by
  rw [visible?, visible?, List.dropWhile_append_of_pos allBlank]

theorem parenthesisLength?_eq_none_iff {text : List Char} :
    parenthesisLength? text = none ↔ visible? text ≠ some '(' := by
  rw [parenthesisLength?, visible?]
  split <;> simp [*]

/-! ## Rules -/

def leadTypes : List TokenType :=
  [.whitespace, .string, .true, .false, .null, .functionOpen, .identifier]

/-- Whether a rule, unless it is for one of these types, is bound to the start of a text and takes
no blank. -/
def isBare (rule : LexerRule) : Bool :=
  leadTypes.contains rule.type ||
    rule.automaton.anchored && rule.automaton.states.all (fun
      | .check condition _ => condition == .textStart
      | _ => true) &&
    (members Text.blankRanges).all fun code => rule.automaton.ignoresAll (Char.ofNat code)

theorem standard_bare : standard.all isBare = true := by
  decide +kernel

structure IsBare (rule : LexerRule) : Prop where
  bound : rule.automaton.IsBound
  stops : ∀ char, isBlank char = true → ∀ next, rule.automaton.StopsAt char next

theorem isBare_of_type {rule : LexerRule} (member : rule ∈ standard)
    (other : rule.type ∉ leadTypes) : IsBare rule := by
  have bare := List.all_eq_true.mp standard_bare rule member
  have unlisted : leadTypes.contains rule.type = false := by simpa using other
  rw [isBare, unlisted, Bool.false_or, Bool.and_eq_true, Bool.and_eq_true] at bare
  rcases bare with ⟨⟨anchored, asks⟩, ignores⟩
  refine ⟨Automaton.isBound_of_all anchored asks, fun char blank => ?_⟩
  have listed : char.toNat ∈ members Text.blankRanges := mem_members (by decide) blank
  have ignored := List.all_eq_true.mp ignores _ listed
  rw [Char.ofNat_toNat] at ignored
  exact Automaton.stopsAt_of_ignoresAll ignored

theorem token?_of_leadTypes {rule : LexerRule} (member : rule ∈ standard)
    (listed : rule.type ∈ leadTypes) {char : Char} (notBlank : ¬ isBlank char = true)
    (notQuote : ¬ (char = '"' ∨ char = '\'')) (noStart : ¬ nameStart.contains char = true)
    (rest : List Char) : token? rule (char :: rest) = none := by
  have ofKeyword {chars : List Char} (isKeyword : keyword? rule.type = some chars) :
      token? rule (char :: rest) = none := by
    refine token?_of_not_keyword member isKeyword fun begins => noStart ?_
    have leads : chars.head?.any nameStart.contains = true := by
      cases isType : rule.type <;> rw [isType] at isKeyword <;> cases isKeyword <;> decide
    rcases begins with ⟨behind, equal⟩
    cases chars with
    | nil => cases leads
    | cons first others =>
      cases equal
      exact leads
  simp only [leadTypes, List.mem_cons, List.not_mem_nil, or_false] at listed
  rcases listed with isType | isType | isType | isType | isType | isType | isType
  · rw [token?, automaton_of_whitespace member isType, find?_blanks, if_neg notBlank]
  · rw [token?, automaton_of_string member isType, find?_quoted, if_neg notQuote]
  · exact ofKeyword (by rw [isType]; rfl)
  · exact ofKeyword (by rw [isType]; rfl)
  · exact ofKeyword (by rw [isType]; rfl)
  · rw [token?_functionOpen member isType, if_neg noStart]
  · rw [token?_identifier member isType, if_neg noStart]

/-- A rule that stops in front of blanks takes the same of a text, or nothing, where a blank stands
behind it. -/
theorem IsBare.token?_append {rule : LexerRule} (bare : IsBare rule) {word rest other : List Char}
    {type : TokenType}
    (taken : token? rule (word ++ rest) = none ∨
      token? rule (word ++ rest) = some (word.length, type))
    (blank : ∀ char ∈ other.head?, isBlank char = true) :
    token? rule (word ++ other) = token? rule (word ++ rest) := by
  have within : ∀ found ∈ rule.automaton.find? (word ++ rest), found.stop ≤ word.length := by
    intro found isFound
    have atStart := (Automaton.isAccepted_of_find? isFound).1 bare.bound.anchored
    rw [token?, Option.mem_def.mp isFound] at taken
    dsimp only at taken
    split at taken
    case isTrue =>
      rcases taken with taken | taken
      · cases taken
      · exact Nat.le_of_eq (Prod.mk.inj (Option.some.inj taken)).1
    case isFalse => omega
  refine token?_congr ?_
  rw [← bare.bound.find?_of_append within]
  cases other with
  | nil => rw [List.append_nil]
  | cons char other => exact (bare.stops char (blank char rfl) other.head?).find?_append word

theorem findSome?_eq_of_first {α β : Type} {entries : List α} {find other : α → Option β}
    {result : β} (found : entries.findSome? find = some result)
    (same : ∀ entry ∈ entries, find entry = none ∨ find entry = some result →
      other entry = find entry) : entries.findSome? other = some result := by
  induction entries with
  | nil => cases found
  | cons entry entries induction =>
    rw [List.forall_mem_cons] at same
    rw [List.findSome?_cons] at found ⊢
    cases first : find entry with
    | none =>
      rw [first] at found
      rw [same.1 (.inl first), first]
      exact induction found same.2
    | some value =>
      rw [first] at found
      cases found
      rw [same.1 (.inr first), first]

/-! ## Words in front of blanks -/

theorem IsPathRest.openingLength?_eq_none {text rest other : List Char}
    (path : IsPathRest false text) (ends : ∀ char ∈ rest.head?, isWord char = false)
    (otherEnds : ∀ char ∈ other.head?, isWord char = false) (same : visible? other = visible? rest)
    (unopened : openingLength? (text ++ rest) = none) : openingLength? (text ++ other) = none := by
  rw [openingLength?, Option.map_eq_none_iff, List.dropWhile_append] at unopened ⊢
  have nothingEnds : ∀ char ∈ ([] : List Char).head?, isWord char = false := by rintro _ ⟨⟩
  rcases path.dropWhile_append nothingEnds with nothing | ⟨behind, isDot⟩
  · rw [List.append_nil] at nothing
    rw [nothing, List.isEmpty_nil, if_pos rfl, dropWhile_eq_self ends] at unopened
    rw [nothing, List.isEmpty_nil, if_pos rfl, dropWhile_eq_self otherEnds,
      parenthesisLength?_eq_none_iff, same]
    exact parenthesisLength?_eq_none_iff.mp unopened
  · rw [List.append_nil] at isDot
    rw [isDot]
    rfl

theorem type_of_nameStart {char : Char} (starts : nameStart.contains char = true)
    {rest : List Char} {count : Nat} {type : TokenType}
    (next : standard.next? (char :: rest) = some (count, type)) :
    (∃ chars, keyword? type = some chars) ∨ type = .identifier ∨ type = .functionOpen := by
  rw [next?_of_nameStart starts] at next
  split at next
  case h_1 keyword isKeyword =>
    have isSame := List.find?_some isKeyword
    cases next
    exact .inl ⟨_, beq_iff_eq.mp isSame⟩
  case h_2 =>
    unfold nameToken at next
    split at next <;> cases next
    · exact .inr (.inr rfl)
    · exact .inr (.inl rfl)

section

variable {word rest other : List Char} {type : TokenType}
  (next : standard.next? (word ++ rest) = some (word.length, type))

include next

theorem next?_apart_of_quote {quote : Char} {others : List Char} (isCons : word = quote :: others)
    (isQuote : quote = '"' ∨ quote = '\'') :
    standard.next? (word ++ other) = some (word.length, type) := by
  subst isCons
  rw [List.cons_append, next?_of_quote isQuote] at next ⊢
  rcases Option.map_eq_some_iff.mp next with ⟨length, closes, equal⟩
  rw [Prod.mk.injEq] at equal
  have searched := find?_quoted quote (others ++ rest)
  rw [if_pos isQuote, closes] at searched
  have within : ∀ found ∈ quoted.find? (quote :: others ++ rest),
      found.stop ≤ (quote :: others).length := by
    intro found isFound
    cases searched.symm.trans isFound
    exact Nat.le_of_eq equal.1
  -- The quote that closes the text belongs to the word.
  have alone := quoted_bound.find?_of_append within
  rw [List.cons_append, searched, find?_quoted, if_pos isQuote] at alone
  rcases Option.map_eq_some_iff.mp alone with ⟨count, closed, isCount⟩
  rw [Match.mk.injEq] at isCount
  rw [quotedLength?_append closed, Option.map_some, isCount.2, equal.1, equal.2]

theorem eq_keyword_of_next? {chars : List Char} (isKeyword : keyword? type = some chars) :
    word = chars := by
  rcases List.exists_of_findSome?_eq_some next with ⟨rule, member, taken⟩
  change token? rule (word ++ rest) = some (word.length, type) at taken
  have isType := type_of_token? taken
  rw [token?_of_keyword member (isType ▸ isKeyword)] at taken
  split at taken
  case isTrue isWhole =>
    have isPrefix : chars <+: word ++ rest := isWhole ▸ List.takeWhile_prefix isWord
    have sameLength : word.length = chars.length := (Prod.mk.inj (Option.some.inj taken)).1.symm
    exact (List.prefix_of_prefix_length_le (List.prefix_append word rest) isPrefix
      (Nat.le_of_eq sameLength)).eq_of_length sameLength
  case isFalse => cases taken

variable (blank : ∀ char ∈ other.head?, isBlank char = true)

include blank

theorem next?_apart_of_keyword {chars : List Char} (isKeyword : keyword? type = some chars) :
    standard.next? (word ++ other) = some (word.length, type) := by
  have ends : Assertion.isWordAt false other.head? = false := by
    cases isHead : other.head? with
    | none => rfl
    | some char => exact isWord_of_isBlank (blank char isHead)
  rw [eq_keyword_of_next? next isKeyword]
  exact next?_keyword isKeyword ends

theorem next?_apart_of_path (isPath : type = .identifier) (same : visible? other = visible? rest) :
    standard.next? (word ++ other) = some (word.length, type) := by
  subst isPath
  have noWord : ∀ char ∈ other.head?, isWord char = false :=
    fun char isHead => isWord_of_isBlank (blank char isHead)
  have noDot : ∀ char ∈ other.head?, char ≠ '.' := by
    rintro char isHead rfl
    exact absurd (blank '.' isHead) (by decide)
  refine (isPath_of_next? next).next?_of_unopened noWord noDot ?_
  rcases exists_cons_of_next? next with ⟨char, others, rfl⟩
  rcases isPathRest_of_next? next with ⟨path, ends, unopened⟩
  exact path.openingLength?_eq_none ends noWord same unopened

omit blank in
theorem next?_apart_of_opening (isOpening : type = .functionOpen) :
    standard.next? (word ++ other) = some (word.length, type) := by
  subst isOpening
  rcases exists_isCallee_of_next? next with ⟨name, blanks, rfl, callee, allBlank⟩
  have joined : name ++ blanks ++ ['('] ++ other = name ++ (blanks ++ '(' :: other) := by simp
  have length : (name ++ blanks ++ ['(']).length = name.length + (blanks.length + 1) := by
    simp
  rw [joined, length, callee.next?_of_blanks allBlank]

theorem next?_apart_of_bare {char : Char} {others : List Char} (isCons : word = char :: others)
    (notBlank : ¬ isBlank char = true) (notQuote : ¬ (char = '"' ∨ char = '\''))
    (noStart : ¬ nameStart.contains char = true) :
    standard.next? (word ++ other) = some (word.length, type) := by
  rw [next?_eq] at next ⊢
  refine findSome?_eq_of_first next fun rule member taken => ?_
  by_cases listed : rule.type ∈ leadTypes
  · rw [isCons, List.cons_append, List.cons_append,
      token?_of_leadTypes member listed notBlank notQuote noStart,
      token?_of_leadTypes member listed notBlank notQuote noStart]
  · exact (isBare_of_type member listed).token?_append taken blank

/-- A word is cut off in the same way where nothing or a blank stands behind it, as long as the
first character behind it that is no blank stays the same. -/
theorem next?_apart (kept : type ≠ .whitespace) (same : visible? other = visible? rest) :
    standard.next? (word ++ other) = some (word.length, type) := by
  -- The first character of the word tells which rules can have taken it.
  rcases exists_cons_of_next? next with ⟨char, others, isCons⟩
  by_cases isBlank : isBlank char = true
  · rw [isCons, List.cons_append, next?_of_isBlank isBlank] at next
    exact absurd (Prod.mk.inj (Option.some.inj next)).2.symm kept
  by_cases isQuote : char = '"' ∨ char = '\''
  · exact next?_apart_of_quote next isCons isQuote
  by_cases starts : nameStart.contains char = true
  · have begins := next
    rw [isCons, List.cons_append] at begins
    rcases type_of_nameStart starts begins with ⟨chars, isKeyword⟩ | isPath | isOpening
    · exact next?_apart_of_keyword next blank isKeyword
    · exact next?_apart_of_path next blank isPath same
    · exact next?_apart_of_opening next isOpening
  · exact next?_apart_of_bare next blank isCons isBlank isQuote starts

end

theorem allBlank_of_next? {text : List Char} {count : Nat}
    (next : standard.next? text = some (count, .whitespace)) :
    ∀ char ∈ text.take count, isBlank char = true := by
  cases text with
  | nil => rw [List.take_nil]; exact List.forall_mem_nil _
  | cons char rest =>
    have blank := isBlank_of_next? next
    have taken : rest.takeWhile isBlank = rest.take (rest.takeWhile isBlank).length :=
      List.prefix_iff_eq_take.mp (List.takeWhile_prefix isBlank)
    rw [next?_of_isBlank blank] at next
    cases next
    rw [Nat.add_comm, List.take_succ_cons, ← taken]
    exact List.forall_mem_cons.mpr ⟨blank, List.all_eq_true.mp List.all_takeWhile⟩

/-! ## Words -/

structure Word where
  text : List Char
  token : Token

/-- The words that a text is cut into from a position on, without white space. -/
inductive Spells (lexer : Lexer) : Nat → List Char → List Word → Prop where
  | nothing {position : Nat} : Spells lexer position [] []
  | blank {position count : Nat} {text : List Char} {words : List Word} (nonempty : text ≠ [])
    (next : lexer.next? text = some (count, .whitespace))
    (others : Spells lexer (position + byteLength (text.take count)) (text.drop count) words) :
    Spells lexer position text words
  | word {position count : Nat} {text : List Char} {type : TokenType} {kind : TokenKind}
    {words : List Word} (nonempty : text ≠ []) (next : lexer.next? text = some (count, type))
    (kept : type ≠ .whitespace)
    (reads : tokenKind type (text.take count) (UInt32.ofNat position).toNat = .ok kind)
    (others : Spells lexer (position + byteLength (text.take count)) (text.drop count) words) :
    Spells lexer position text
      (⟨text.take count, tokenAt position (text.take count) kind⟩ :: words)

theorem Scans.exists_spells {lexer : Lexer} {position finish : Nat} {text rest : List Char}
    {tokens : List Token} (scans : lexer.Scans position text tokens finish rest)
    (ends : rest = []) :
    ∃ words, lexer.Spells position text words ∧ words.map (·.token) = given false tokens := by
  induction scans with
  | nothing =>
    subst ends
    exact ⟨[], .nothing, rfl⟩
  | @token position finish count text rest type kind tokens nonempty next reads _ induction =>
    rcases induction ends with ⟨words, spells, same⟩
    have isType : (tokenAt position (text.take count) kind).kind.type = type :=
      type_of_tokenKind reads
    by_cases isWhitespace : type = .whitespace
    · subst isWhitespace
      refine ⟨words, .blank nonempty next spells, ?_⟩
      rw [same, given, given, List.filter_cons, isType]
      rfl
    · refine ⟨_ :: words, .word nonempty next isWhitespace reads spells, ?_⟩
      rw [List.map_cons, same, given, given, List.filter_cons, isType,
        if_pos (isKept_false_iff.mpr isWhitespace)]

theorem exists_spells_of_tokenize {lexer : Lexer} {text : String} {tokens : List Token}
    (tokenized : lexer.tokenize text false = .ok tokens) :
    ∃ words stop, lexer.Spells 0 text.toList words ∧
      tokens = words.map (·.token) ++ [⟨.endOfInput, stop⟩] := by
  rcases exists_scans lexer (Nat.le_refl text.toList.length) 0 with
    ⟨cut, finish, rest, scans, _, ⟨ends, succeeds⟩ | ⟨fault, _, fails⟩⟩
  · rcases scans.exists_spells ends with ⟨words, spells, same⟩
    cases tokenized.symm.trans (succeeds false)
    exact ⟨words, _, spells, by rw [same]⟩
  · cases tokenized.symm.trans (fails false)

theorem slice_tokenAt {before middle after : List Char}
    (short : byteLength (before ++ middle ++ after) < 2 ^ 32) (kind : TokenKind) :
    (tokenAt (byteLength before) middle kind).span.slice (before ++ middle ++ after) = middle := by
  have total : byteLength before + byteLength middle + byteLength after < 2 ^ 32 := by
    rwa [Text.byteLength_append, Text.byteLength_append] at short
  have start : byteLength before % 2 ^ 32 = byteLength before := Nat.mod_eq_of_lt (by omega)
  have stop : (byteLength before + byteLength middle) % 2 ^ 32 =
      byteLength before + byteLength middle := Nat.mod_eq_of_lt (by omega)
  rw [tokenAt, Span.slice, Span.start_ofNat, Span.stop_ofNat, start, stop, Text.slice?_append]
  rfl

namespace Spells

variable {position : Nat} {text : List Char} {words : List Word}

theorem slice_eq {lexer : Lexer} (spells : lexer.Spells position text words)
    {before whole : List Char} (isWhole : whole = before ++ text)
    (isPosition : byteLength before = position) (short : byteLength whole < 2 ^ 32) :
    ∀ word ∈ words, word.token.span.slice whole = word.text := by
  have isSplit {before text : List Char} (count : Nat) (isWhole : whole = before ++ text) :
      whole = before ++ text.take count ++ text.drop count := by
    rw [isWhole, List.append_assoc, List.take_append_drop]
  induction spells generalizing before with
  | nothing => exact List.forall_mem_nil _
  | @blank position count text words _ _ _ induction =>
    subst isPosition
    exact induction (isSplit count isWhole) (Text.byteLength_append ..)
  | @word position count text type kind words _ _ _ _ _ induction =>
    subst isPosition
    have isWhole := isSplit count isWhole
    refine List.forall_mem_cons.mpr ⟨?_, induction isWhole (Text.byteLength_append ..)⟩
    rw [isWhole] at short ⊢
    exact slice_tokenAt short kind

theorem exists_of_cons {lexer : Lexer} {word : Word}
    (spells : lexer.Spells position text (word :: words)) :
    ∃ start rest type, lexer.next? (word.text ++ rest) = some (word.text.length, type) ∧
      type ≠ .whitespace ∧ tokenKind type word.text 0 = .ok word.token.kind ∧
      lexer.Spells start rest words := by
  generalize isWords : word :: words = all at spells
  induction spells with
  | nothing => cases isWords
  | blank _ _ _ induction => exact induction isWords
  | @word position count text type kind _ _ next kept reads others =>
    cases isWords
    refine ⟨_, text.drop count, type, ?_, kept, tokenKind_eq_ok reads 0, others⟩
    rw [List.take_append_drop, List.length_take_of_le (count_of_next? next).2]
    exact next

end Spells

/-! ## Layouts -/

/-- Texts that consist of words with white space behind each of them, of which there is some
between two words. -/
inductive Layout : List (List Char) → List Char → Prop where
  | nothing : Layout [] []
  | word {word gap text : List Char} {words : List (List Char)}
    (allBlank : ∀ char ∈ gap, isBlank char = true) (apart : words ≠ [] → gap ≠ [])
    (behind : Layout words text) : Layout (word :: words) (word ++ gap ++ text)

theorem Layout.isBlank_head {words : List (List Char)} {gap text : List Char}
    (layout : Layout words text) (allBlank : ∀ char ∈ gap, isBlank char = true)
    (apart : words ≠ [] → gap ≠ []) : ∀ char ∈ (gap ++ text).head?, isBlank char = true := by
  cases gap with
  | nil =>
    cases layout with
    | nothing => rintro _ ⟨⟩
    | word => exact absurd rfl (apart (List.cons_ne_nil _ _))
  | cons char gap =>
    rintro _ ⟨⟩
    exact allBlank char (List.mem_cons_self ..)

theorem Cuts.gap_append {text gap : List Char} {kinds : List TokenKind}
    (cuts : standard.Cuts text kinds) (allBlank : ∀ char ∈ gap, isBlank char = true) :
    standard.Cuts (gap ++ text) kinds := by
  induction gap with
  | nil => exact cuts
  | cons char gap induction =>
    rw [List.forall_mem_cons] at allBlank
    exact (induction allBlank.2).blank_cons allBlank.1

namespace Spells

variable {position : Nat} {text : List Char} {words : List Word}
  (spells : standard.Spells position text words)

include spells

/-- However the words of a text are laid out, the first character to be seen is the same. -/
theorem visible?_eq {laid : List Char} (layout : Layout (words.map (·.text)) laid) :
    visible? laid = visible? text := by
  induction spells with
  | nothing =>
    cases layout
    rfl
  | @blank position count text words nonempty next _ induction =>
    rw [induction layout, ← List.take_append_drop count text,
      visible?_append_of_blank (allBlank_of_next? next), List.take_append_drop]
  | @word position count text type kind words nonempty next kept _ _ _ =>
    rcases text with _ | ⟨char, rest⟩
    · exact absurd rfl nonempty
    have notBlank : ¬ isBlank char = true := fun blank =>
      kept (Prod.mk.inj (Option.some.inj (next.symm.trans (next?_of_isBlank blank rest)))).2
    rcases Nat.exists_eq_add_one_of_ne_zero (Nat.ne_of_gt (count_of_next? next).1) with ⟨more, rfl⟩
    cases layout
    rw [List.take_succ_cons, List.cons_append, List.cons_append, visible?_of_not_blank notBlank,
      visible?_of_not_blank notBlank]

theorem cuts {laid : List Char} (layout : Layout (words.map (·.text)) laid) :
    standard.Cuts laid (words.map (·.token.kind)) := by
  induction words generalizing position text laid with
  | nil =>
    cases layout
    exact .nothing
  | cons word words induction =>
    rcases spells.exists_of_cons with ⟨start, rest, type, next, kept, reads, others⟩
    cases layout with
    | @word _ gap laid _ allBlank apart behind =>
      have same : visible? (gap ++ laid) = visible? rest :=
        (visible?_append_of_blank allBlank laid).trans (others.visible?_eq behind)
      have joined := next?_apart next (behind.isBlank_head allBlank apart) kept same
      rw [List.append_assoc]
      exact ((induction others behind).gap_append allBlank).token_append joined kept reads

end Spells

/-- That the layout of a text makes no difference to its tokens. They are those of its words, which
are what their spans cover. Any other text that consists of these words, with white space between
them and with white space at both ends or not, has tokens of the same kinds. -/
structure IgnoresLayout (text : String) (tokens : List Token) (words : List Word) : Prop where
  spells : standard.Spells 0 text.toList words
  tokens_eq : ∃ stop, tokens = words.map (·.token) ++ [⟨.endOfInput, stop⟩]
  covers : byteLength text.toList < 2 ^ 32 →
    ∀ word ∈ words, word.token.span.slice text.toList = word.text
  alike : ∀ gap laid, (∀ char ∈ gap, isBlank char = true) →
    Layout (words.map (·.text)) laid →
      ∃ others, standard.tokenize (String.ofList (gap ++ laid)) false = .ok others ∧
        others.map (·.kind) = tokens.map (·.kind)

theorem exists_ignoresLayout {text : String} {tokens : List Token}
    (tokenized : standard.tokenize text false = .ok tokens) :
    ∃ words, IgnoresLayout text tokens words := by
  rcases exists_spells_of_tokenize tokenized with ⟨words, stop, spells, rfl⟩
  refine ⟨words, spells, ⟨stop, rfl⟩, spells.slice_eq (List.nil_append _).symm rfl, ?_⟩
  intro gap laid allBlank layout
  have cuts : standard.Cuts (String.ofList (gap ++ laid)).toList (words.map (·.token.kind)) := by
    rw [String.toList_ofList]
    exact (spells.cuts layout).gap_append allBlank
  rcases cuts.tokenize with ⟨inner, last, succeeds, same⟩
  refine ⟨_, succeeds, ?_⟩
  rw [List.map_append, List.map_append, same, List.map_map]
  rfl

theorem exists_ignoresLayout_call : ∃ tokens,
    standard.tokenize "in (a.b,-1)&&!c" false = .ok tokens ∧
      ∃ words, IgnoresLayout "in (a.b,-1)&&!c" tokens words := by
  have succeeds : (standard.tokenize "in (a.b,-1)&&!c" false).toOption.any (fun _ => true) =
      true := by
    decide +kernel
  rcases exists_eq_ok_of_any succeeds with ⟨tokens, tokenized, _⟩
  exact ⟨tokens, tokenized, exists_ignoresLayout tokenized⟩

end Proviso.Lexer
