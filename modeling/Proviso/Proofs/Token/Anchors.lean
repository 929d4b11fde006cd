import Proviso.Proofs.Pattern.Enclosing
import Proviso.Proofs.Pattern.Exploration
import Proviso.Proofs.Token.Tiling

/-!
What tokens have to do with the patterns of a table. A lexer searches for its patterns bound to the
start of what is left of a text, between parentheses that are put around their written form. Where
a pattern can be read by itself, these parentheses enclose it: the bound pattern takes what the
pattern takes from the start of the text, and nothing elsewhere.
-/

namespace Proviso

open Outcome

open Text (byteLength)

/-! ## Bound patterns -/

namespace Pattern

variable {pattern alone read : Pattern} {text : List Char} {count : Nat}

def bound (pattern : Pattern) : Pattern :=
  .concat [.assertion .textStart, pattern]

theorem eq_bound_of_read? {written : String} (isAlone : Pattern.read? written.toList = some alone)
    (isRead : Pattern.read? (Lexer.boundPattern written) = some read) : read = alone.bound := by
  have isText : Lexer.boundPattern written =
      '^' :: '(' :: '?' :: ':' :: (written.toList ++ [')']) := by
    simp [Lexer.boundPattern]
  -- There are more steps for the bound pattern, three of which lead into its group.
  have isFuel : 2 * (Lexer.boundPattern written).length + 2 =
      2 * written.toList.length + 9 + 3 := by
    simp only [isText, List.length_cons, List.length_append, List.length_nil]
    omega
  unfold Pattern.read? at isAlone isRead
  simp only [Option.bind_eq_bind, Option.bind_eq_some_iff, Option.ite_none_right_eq_some,
    Bool.and_eq_true] at isAlone isRead
  rcases isAlone with ⟨⟨piece, scope, rest⟩, isPiece, ⟨⟨ends, -⟩, -⟩, ⟨⟩⟩
  rcases isRead with ⟨⟨whole, outer, others⟩, isWhole, -, ⟨⟩⟩
  have isEnd : rest = [] := List.isEmpty_iff.mp ends
  subst isEnd
  rw [isFuel, isText] at isWhole
  exact PatternReader.pattern_of_bound (Nat.add_le_add_left (by decide) _) isPiece isWhole

theorem isAnchored_bound (pattern : Pattern) : pattern.bound.isAnchored = true := by
  have isParts : pattern.bound = ofParts (.assertion .textStart :: pattern.parts) := by
    rw [bound, concat]
    simp [parts]
  rw [isParts]
  cases pattern.parts with
  | nil => rfl
  | cons => rfl

theorem takes_bound_iff : pattern.bound.Takes text 0 count ↔ pattern.Takes text 0 count := by
  rw [bound, takes_concat_pair]
  constructor
  · rintro ⟨_, ⟨rfl, -⟩, taken⟩
    exact taken
  · intro taken
    exact ⟨0, ⟨rfl, rfl⟩, taken⟩

/-- The number of characters that a pattern takes at the start of a text, if it matches there: of
several ways to match, the one that a search prefers. -/
def taken? (pattern : Pattern) (text : List Char) : Option Nat :=
  ((Automaton.ofPattern pattern.bound).find? text).map (·.stop)

theorem find?_bound (pattern : Pattern) (text : List Char) :
    (Automaton.ofPattern pattern.bound).find? text =
      (pattern.taken? text).map fun count => ⟨0, count⟩ := by
  unfold taken?
  cases isFound : (Automaton.ofPattern pattern.bound).find? text with
  | none => rfl
  | some found =>
    have atStart : found.start = 0 := (takes_of_find? isFound).2 (isAnchored_bound pattern)
    rw [Option.map_some, Option.map_some, ← atStart]

theorem takes_of_taken? (taken : pattern.taken? text = some count) :
    pattern.Takes text 0 count := by
  have isFound : (Automaton.ofPattern pattern.bound).find? text = some ⟨0, count⟩ := by
    rw [find?_bound, taken]
    rfl
  exact takes_bound_iff.mp (takes_of_find? isFound).1

theorem taken?_eq_none_iff : pattern.taken? text = none ↔ ∀ stop, ¬ pattern.Takes text 0 stop := by
  constructor
  · intro isNone stop taken
    have found := isSome_find?_of_takes (takes_bound_iff.mpr taken)
    rw [find?_bound, isNone] at found
    cases found
  · intro never
    cases taken : pattern.taken? text with
    | none => rfl
    | some count => exact absurd (takes_of_taken? taken) (never count)

/-- Whether a pattern is passed over at the start of a text: it matches nothing there, or prefers to
take no character. -/
def Declines (pattern : Pattern) (text : List Char) : Prop :=
  (∀ stop, ¬ pattern.Takes text 0 stop) ∨ pattern.taken? text = some 0

theorem declines_iff :
    pattern.Declines text ↔ ∀ count, pattern.taken? text = some count → count = 0 := by
  rw [Declines, ← taken?_eq_none_iff]
  cases pattern.taken? text <;> simp

end Pattern

namespace Lexer

def patterns? (table : List (String × TokenType)) : Option (List (Pattern × TokenType)) :=
  table.mapM fun (pattern, type) => (Pattern.read? pattern.toList).map (·, type)

/-- How the patterns of a table come to a token at the start of a text. Its characters are taken by
one of them, by the match that a search for it prefers. All the patterns in front of that one
decline. -/
inductive Chooses (patterns : List (Pattern × TokenType)) (text : List Char) :
    Nat → TokenType → Prop where
  | choice {before after : List (Pattern × TokenType)} {pattern : Pattern} {count : Nat}
    {type : TokenType} (isTable : patterns = before ++ (pattern, type) :: after)
    (positive : 0 < count) (within : count ≤ text.length) (takes : pattern.Takes text 0 count)
    (preferred : pattern.taken? text = some count)
    (others : ∀ other ∈ before, other.1.Declines text) : Chooses patterns text count type

/-- The tokens, white space among them, that the patterns of a table make of a text, with the place
that is reached and what is left there. -/
inductive Anchored (patterns : List (Pattern × TokenType)) :
    Nat → List Char → List Token → Nat → List Char → Prop where
  | nothing {position : Nat} {text : List Char} : Anchored patterns position text [] position text
  | token {position finish count : Nat} {text rest : List Char} {type : TokenType}
    {kind : TokenKind} {tokens : List Token} (chosen : Chooses patterns text count type)
    (reads : tokenKind type (text.take count) (UInt32.ofNat position).toNat = .ok kind)
    (others : Anchored patterns (position + byteLength (text.take count)) (text.drop count) tokens
      finish rest) :
    Anchored patterns position text (tokenAt position (text.take count) kind :: tokens) finish rest

theorem pattern_of_ofTable {table : List (String × TokenType)} {lexer : Lexer}
    {patterns : List (Pattern × TokenType)} (accepted : ofTable table = .ok lexer)
    (alone : patterns? table = some patterns) :
    lexer.map (fun rule => (rule.pattern, rule.type)) =
      patterns.map fun (pattern, type) => (pattern.bound, type) := by
  induction table generalizing lexer patterns with
  | nil =>
    cases accepted
    cases alone
    rfl
  | cons entry rest induction =>
    rcases entry with ⟨written, type⟩
    unfold ofTable at accepted
    simp only [patterns?, List.mapM_cons, Option.bind_eq_bind, Option.pure_def,
      Option.bind_eq_some_iff, Option.map_eq_some_iff] at alone
    rcases alone with ⟨_, ⟨pattern, isAlone, ⟨⟩⟩, others, areAlone, ⟨⟩⟩
    split at accepted
    case h_1 read isRead =>
      rcases map_eq_ok.mp accepted with ⟨rules, areRead, ⟨⟩⟩
      cases Pattern.eq_bound_of_read? isAlone isRead
      rw [List.map_cons, List.map_cons, induction areRead areAlone]
    case h_2 => cases accepted

theorem makes_nothing_iff {pattern : Pattern} {type : TokenType} {text : List Char} :
    ((pattern.taken? text).bind fun count => if 0 < count then some (count, type) else none) =
      none ↔ pattern.Declines text := by
  rw [Pattern.declines_iff]
  cases pattern.taken? text <;> simp

section

variable {table : List (String × TokenType)} {lexer : Lexer} {patterns : List (Pattern × TokenType)}
  (accepted : ofTable table = .ok lexer) (alone : patterns? table = some patterns)

include accepted alone

theorem next?_eq_findSome? (text : List Char) :
    lexer.next? text = patterns.findSome? fun (pattern, type) =>
      (pattern.taken? text).bind fun count => if 0 < count then some (count, type) else none := by
  let choose (entry : Pattern × TokenType) : Option (Nat × TokenType) :=
    ((Automaton.ofPattern entry.1).find? text).bind fun found =>
      if found.start < found.stop then some (found.stop, entry.2) else none
  have ofRules : lexer.next? text =
      (lexer.map fun rule => (rule.pattern, rule.type)).findSome? choose := by
    rw [List.findSome?_map]
    unfold next?
    congr
    funext rule
    rw [rule.automaton_eq, Function.comp_apply]
    cases isFound : (Automaton.ofPattern rule.pattern).find? text <;> simp [choose, isFound]
  rw [ofRules, pattern_of_ofTable accepted alone, List.findSome?_map]
  congr
  funext entry
  rcases entry with ⟨pattern, type⟩
  dsimp only [Function.comp_apply, choose]
  rw [Pattern.find?_bound]
  cases pattern.taken? text <;> rfl

theorem next?_eq_some_iff {text : List Char} {count : Nat} {type : TokenType} :
    lexer.next? text = some (count, type) ↔ Chooses patterns text count type := by
  constructor
  · intro next
    have within : count ≤ text.length := (count_of_next? next).2
    rw [next?_eq_findSome? accepted alone, List.findSome?_eq_some_iff] at next
    rcases next with ⟨before, ⟨pattern, same⟩, after, isTable, chosen, others⟩
    rcases Option.bind_eq_some_iff.mp chosen with ⟨taken, isTaken, chosen⟩
    rcases Option.ite_none_right_eq_some.mp chosen with ⟨positive, ⟨⟩⟩
    exact .choice isTable positive within (Pattern.takes_of_taken? isTaken) isTaken
      fun other member => makes_nothing_iff.mp (others other member)
  · rintro ⟨isTable, positive, -, -, preferred, others⟩
    rw [next?_eq_findSome? accepted alone, List.findSome?_eq_some_iff]
    refine ⟨_, _, _, isTable, ?_, fun other member => makes_nothing_iff.mpr (others other member)⟩
    simp [preferred, positive]

theorem next?_eq_none_iff {text : List Char} :
    lexer.next? text = none ↔ ∀ entry ∈ patterns, entry.1.Declines text := by
  rw [next?_eq_findSome? accepted alone, List.findSome?_eq_none_iff]
  exact forall₂_congr fun entry member => makes_nothing_iff

theorem scans_iff_anchored {position finish : Nat} {text rest : List Char} {tokens : List Token} :
    lexer.Scans position text tokens finish rest ↔
      Anchored patterns position text tokens finish rest := by
  constructor
  · intro scans
    induction scans with
    | nothing => exact .nothing
    | token _ next reads _ induction =>
      exact .token ((next?_eq_some_iff accepted alone).mp next) reads induction
  · intro anchored
    induction anchored with
    | nothing => exact .nothing
    | @token _ _ count text _ _ _ _ chosen reads _ induction =>
      have nonempty : text ≠ [] := by
        rcases chosen with ⟨_, positive, within, _, _, _⟩
        exact List.ne_nil_of_length_pos (Nat.lt_of_lt_of_le positive within)
      exact .token nonempty ((next?_eq_some_iff accepted alone).mpr chosen) reads induction

end

theorem Scans.tokensFrom_eq_error {lexer : Lexer} {position finish : Nat} {text rest : List Char}
    {tokens : List Token} (scans : lexer.Scans position text tokens finish rest) (left : rest ≠ [])
    (unmatched : lexer.next? rest = none) {fuel : Nat} (enough : text.length ≤ fuel)
    (keepWhitespace : Bool) :
    lexer.tokensFrom keepWhitespace fuel position text =
      .error (.lexical (String.ofList rest) finish) := by
  induction scans generalizing fuel with
  | @nothing position text =>
    rcases List.exists_cons_of_ne_nil left with ⟨char, following, rfl⟩
    rcases Nat.exists_eq_succ_of_ne_zero (Nat.ne_zero_of_lt enough) with ⟨fuel, rfl⟩
    simp only [tokensFrom, unmatched]
  | @token position finish count text rest type kind tokens nonempty next reads others induction =>
    rcases List.exists_cons_of_ne_nil nonempty with ⟨char, following, rfl⟩
    rcases Nat.exists_eq_succ_of_ne_zero (Nat.ne_zero_of_lt enough) with ⟨fuel, rfl⟩
    have shorter := length_drop_le (count_of_next? next).1 enough
    rw [tokensFrom_token next reads, induction left unmatched shorter]
    rfl

/-- That tokens are anchored to the patterns of a table. Every token that is given is one that the
patterns make of the text. Where they all decline what is left, that is a lexical fault. Tokens are
made until nothing is left, all patterns decline, or a token cannot be read. -/
structure IsAnchored (lexer : Lexer) (patterns : List (Pattern × TokenType)) (text : String) :
    Prop where
  tokens : ∀ keepWhitespace all, lexer.tokenize text keepWhitespace = .ok all →
    ∃ tokens finish, Anchored patterns 0 text.toList tokens finish [] ∧
      all = given keepWhitespace tokens ++ [⟨.endOfInput, Span.point finish⟩]
  refuses : ∀ tokens position rest, Anchored patterns 0 text.toList tokens position rest →
    rest ≠ [] → (∀ entry ∈ patterns, entry.1.Declines rest) → ∀ keepWhitespace,
      lexer.tokenize text keepWhitespace = .error (.lexical (String.ofList rest) position)
  ends : ∃ tokens position rest, Anchored patterns 0 text.toList tokens position rest ∧
    (rest = [] ∨ (∀ entry ∈ patterns, entry.1.Declines rest) ∨
      ∃ count type fault, Chooses patterns rest count type ∧
        tokenKind type (rest.take count) (UInt32.ofNat position).toNat = .error fault)

/-- A lexer whose patterns can be read by themselves makes the tokens that they match where the
text before ends, and no others. -/
theorem isAnchored_of_patterns? {table : List (String × TokenType)} {lexer : Lexer}
    {patterns : List (Pattern × TokenType)} (accepted : ofTable table = .ok lexer)
    (alone : patterns? table = some patterns) (text : String) : lexer.IsAnchored patterns text := by
  have scanned : ∀ {tokens finish rest}, lexer.Scans 0 text.toList tokens finish rest ↔
      Anchored patterns 0 text.toList tokens finish rest := scans_iff_anchored accepted alone
  rcases exists_scans lexer (Nat.le_refl text.toList.length) 0 with
    ⟨tokens, finish, rest, scans, _, outcome⟩
  constructor
  case tokens =>
    intro keepWhitespace all succeeds
    rcases outcome with ⟨rfl, gives⟩ | ⟨fault, _, fails⟩
    · exact ⟨tokens, finish, scanned.mp scans,
        Except.ok.inj (succeeds.symm.trans (gives keepWhitespace))⟩
    · cases succeeds.symm.trans (fails keepWhitespace)
  case refuses =>
    intro tokens position rest anchored left decline keepWhitespace
    exact (scanned.mpr anchored).tokensFrom_eq_error left
      ((next?_eq_none_iff accepted alone).mpr decline) (Nat.le_refl _) keepWhitespace
  case ends =>
    refine ⟨tokens, finish, rest, scanned.mp scans, ?_⟩
    rcases outcome with ⟨isEnd, _⟩ | ⟨fault, stuck, _⟩
    · exact .inl isEnd
    · cases stuck with
      | unmatched _ next => exact .inr (.inl ((next?_eq_none_iff accepted alone).mp next))
      | unread _ next fails =>
        exact .inr (.inr ⟨_, _, _, (next?_eq_some_iff accepted alone).mp next, fails⟩)

/-- The first pattern would rather take nothing, and the second one what is shorter. -/
theorem isAnchored_lazy : ∃ lexer patterns,
    ofTable [("a??", .comma), ("a|ab", .identifier), ("\\s+", .whitespace)] = .ok lexer ∧
      patterns? [("a??", .comma), ("a|ab", .identifier), ("\\s+", .whitespace)] = some patterns ∧
      lexer.IsAnchored patterns "a ab" := by
  have readable : (ofTable [("a??", .comma), ("a|ab", .identifier),
      ("\\s+", .whitespace)]).toOption.any (fun _ => true) = true := by
    decide +kernel
  have areAlone : (patterns? [("a??", .comma), ("a|ab", .identifier),
      ("\\s+", .whitespace)]).isSome = true := by
    decide +kernel
  rcases exists_eq_ok_of_any readable with ⟨lexer, isRead, _⟩
  rcases Option.isSome_iff_exists.mp areAlone with ⟨patterns, alone⟩
  exact ⟨lexer, patterns, isRead, alone, isAnchored_of_patterns? isRead alone "a ab"⟩

/-- The parenthesis of this pattern closes the group that binds it. The second alternative is found
anywhere, and what stands in front of it is swallowed, although the rule matches nothing there. -/
theorem not_isAnchored_unbound : ∃ lexer, ofTable [("a)|(?:b", .identifier)] = .ok lexer ∧
    patterns? [("a)|(?:b", .identifier)] = none ∧
    (∀ rule ∈ lexer, ∀ stop, ¬ rule.pattern.Takes "#b".toList 0 stop) ∧
    ∃ tokens, lexer.tokenize "#b" true = .ok tokens ∧
      tokens.map (·.kind.text) = ["#b", "end of input"] := by
  have swallowed : (ofTable [("a)|(?:b", .identifier)]).toOption.any (fun lexer =>
      lexer.all (fun rule => (rule.pattern.taken? "#b".toList).isNone) &&
        (lexer.tokenize "#b" true).toOption.any fun tokens =>
          tokens.map (·.kind.text) == ["#b", "end of input"]) = true := by
    decide +kernel
  have unreadable : (patterns? [("a)|(?:b", .identifier)]).isNone = true := by
    decide +kernel
  rcases exists_eq_ok_of_any swallowed with ⟨lexer, isRead, holds⟩
  rcases (Bool.and_eq_true _ _).mp holds with ⟨unmatched, tokenized⟩
  rcases exists_eq_ok_of_any tokenized with ⟨tokens, isTokens, said⟩
  refine ⟨lexer, isRead, Option.isNone_iff_eq_none.mp unreadable, ?_, tokens, isTokens, ?_⟩
  · intro rule member
    have declines := List.all_eq_true.mp unmatched rule member
    exact Pattern.taken?_eq_none_iff.mp (Option.isNone_iff_eq_none.mp declines)
  · exact eq_of_beq said

end Lexer

end Proviso
