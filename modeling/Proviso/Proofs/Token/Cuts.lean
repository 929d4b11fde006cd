import Proviso.Proofs.Outcome
import Proviso.Proofs.Token.Standard

/-!
What a text is cut into, apart from places. Two operands with a relation between them are cut into
the tokens of the one, the relation and the tokens of the other.
-/

namespace Proviso.Lexer

open Outcome

theorem count_of_next? {lexer : Lexer} {text : List Char} {count : Nat} {type : TokenType}
    (next : lexer.next? text = some (count, type)) : 0 < count ∧ count ≤ text.length := by
  rcases List.exists_of_findSome?_eq_some next with ⟨rule, _, taken⟩
  split at taken
  case h_1 found isFound =>
    split at taken
    case isTrue positive =>
      cases taken
      exact ⟨Nat.zero_lt_of_lt positive, Automaton.find?_stop_le isFound⟩
    case isFalse => cases taken
  case h_2 => cases taken

theorem tokenKind_eq_ok {type : TokenType} {text : List Char} {position : Nat} {kind : TokenKind}
    (reads : tokenKind type text position = .ok kind) (other : Nat) :
    tokenKind type text other = .ok kind := by
  cases type with
  | integer | float =>
    simp only [tokenKind] at reads ⊢
    split at reads
    case h_1 => exact reads
    case h_2 => cases reads
  | _ => exact reads

/-- The kinds of the tokens that a text is cut into, without white space. -/
inductive Cuts (lexer : Lexer) : List Char → List TokenKind → Prop where
  | nothing : Cuts lexer [] []
  | blank {text : List Char} {count : Nat} {kinds : List TokenKind} (nonempty : text ≠ [])
      (next : lexer.next? text = some (count, .whitespace))
      (rest : Cuts lexer (text.drop count) kinds) : Cuts lexer text kinds
  | token {text : List Char} {count : Nat} {type : TokenType} {kind : TokenKind}
      {kinds : List TokenKind} (nonempty : text ≠ [])
      (next : lexer.next? text = some (count, type)) (kept : type ≠ .whitespace)
      (reads : tokenKind type (text.take count) 0 = .ok kind)
      (rest : Cuts lexer (text.drop count) kinds) : Cuts lexer text (kind :: kinds)

theorem isKept_false_iff {type : TokenType} : isKept false type = true ↔ type ≠ .whitespace := by
  simp [isKept]

theorem length_drop_le {text : List Char} {count fuel : Nat} (positive : 0 < count)
    (enough : text.length ≤ fuel + 1) : (text.drop count).length ≤ fuel := by
  rw [List.length_drop]
  omega

theorem cuts_of_tokensFrom {lexer : Lexer} {fuel position : Nat} {text : List Char}
    {tokens : List Token} (enough : text.length ≤ fuel)
    (tokenized : lexer.tokensFrom false fuel position text = .ok tokens) :
    ∃ inner stop, tokens = inner ++ [⟨.endOfInput, stop⟩] ∧
      lexer.Cuts text (inner.map (·.kind)) := by
  induction fuel generalizing position text tokens with
  | zero =>
    rcases List.length_eq_zero_iff.mp (Nat.le_zero.mp enough) with rfl
    cases tokenized
    exact ⟨[], _, rfl, .nothing⟩
  | succ fuel induction =>
    rcases text with _ | ⟨char, rest⟩
    · cases tokenized
      exact ⟨[], _, rfl, .nothing⟩
    have nonempty : char :: rest ≠ [] := List.cons_ne_nil _ _
    simp only [tokensFrom] at tokenized
    split at tokenized
    case h_1 => cases tokenized
    case h_2 count type next =>
      have shorter := length_drop_le (count_of_next? next).1 enough
      split at tokenized
      case isTrue kept =>
        rcases bind_eq_ok.mp tokenized with ⟨kind, reads, finished⟩
        rcases bind_eq_ok.mp finished with ⟨others, continued, equal⟩
        rcases pure_eq_ok.mp equal with rfl
        rcases induction shorter continued with ⟨inner, stop, rfl, cuts⟩
        exact ⟨_ :: inner, stop, rfl,
          .token nonempty next (isKept_false_iff.mp kept) (tokenKind_eq_ok reads 0) cuts⟩
      case isFalse blank =>
        have isWhitespace : type = .whitespace :=
          Decidable.byContradiction fun kept => blank (isKept_false_iff.mpr kept)
        subst isWhitespace
        rcases induction shorter tokenized with ⟨inner, stop, rfl, cuts⟩
        exact ⟨inner, stop, rfl, .blank nonempty next cuts⟩

theorem Cuts.tokensFrom {lexer : Lexer} {text : List Char} {kinds : List TokenKind}
    (cuts : lexer.Cuts text kinds) {fuel : Nat} (enough : text.length ≤ fuel) (position : Nat) :
    ∃ inner stop, lexer.tokensFrom false fuel position text =
        .ok (inner ++ [⟨.endOfInput, stop⟩]) ∧ inner.map (·.kind) = kinds := by
  induction cuts generalizing fuel position with
  | nothing =>
    refine ⟨[], Span.point position, ?_, rfl⟩
    cases fuel <;> rfl
  | @blank text count kinds nonempty next _ induction =>
    rcases text with _ | ⟨char, rest⟩
    · exact absurd rfl nonempty
    rcases fuel with _ | fuel
    · cases enough
    rcases induction (length_drop_le (count_of_next? next).1 enough)
      (position + Text.byteLength ((char :: rest).take count)) with ⟨inner, last, tokenized, same⟩
    refine ⟨inner, last, ?_, same⟩
    rw [Lexer.tokensFrom]
    simp only [next]
    exact tokenized
  | @token text count type kind kinds nonempty next kept reads _ induction =>
    rcases text with _ | ⟨char, rest⟩
    · exact absurd rfl nonempty
    rcases fuel with _ | fuel
    · cases enough
    let stop := position + Text.byteLength ((char :: rest).take count)
    rcases induction (length_drop_le (count_of_next? next).1 enough) stop with
      ⟨inner, last, tokenized, same⟩
    refine ⟨⟨kind, Span.ofNat position stop⟩ :: inner, last, ?_, congrArg (kind :: ·) same⟩
    rw [Lexer.tokensFrom]
    simp only [next, if_pos (isKept_false_iff.mpr kept)]
    exact bind_eq_ok.mpr ⟨kind, tokenKind_eq_ok reads _, bind_eq_ok.mpr ⟨_, tokenized, rfl⟩⟩

/-! ## Texts side by side -/

theorem Cuts.blank_cons {text : List Char} {kinds : List TokenKind}
    (cuts : standard.Cuts text kinds) {char : Char} (blank : Text.isBlank char = true) :
    standard.Cuts (char :: text) kinds := by
  have next := next?_of_isBlank blank text
  refine .blank (List.cons_ne_nil _ _) next ?_
  rw [Nat.add_comm, List.drop_succ_cons]
  cases text with
  | nil => exact cuts
  | cons char rest =>
    cases blank : Text.isBlank char with
    | false =>
      rw [List.takeWhile_cons, blank]
      exact cuts
    | true =>
      have taken := next?_of_isBlank blank rest
      rw [List.takeWhile_cons, blank]
      cases cuts with
      | blank _ next cuts =>
        rw [taken] at next
        cases next
        rwa [Nat.add_comm] at cuts
      | token _ next kept =>
        rw [taken] at next
        cases next
        exact absurd rfl kept

theorem Cuts.token_append {lexer : Lexer} {first text : List Char} {type : TokenType}
    {kind : TokenKind} {kinds : List TokenKind} (cuts : lexer.Cuts text kinds)
    (next : lexer.next? (first ++ text) = some (first.length, type)) (kept : type ≠ .whitespace)
    (reads : tokenKind type first 0 = .ok kind) : lexer.Cuts (first ++ text) (kind :: kinds) := by
  have nonempty : first ++ text ≠ [] := by
    intro nothing
    have positive := (count_of_next? next).1
    rw [(List.append_eq_nil_iff.mp nothing).1] at positive
    exact absurd positive (Nat.lt_irrefl 0)
  refine .token nonempty next kept ?_ ?_
  · rwa [List.take_left]
  · rwa [List.drop_left]

theorem Cuts.relation_append {text : List Char} {kinds : List TokenKind}
    (cuts : standard.Cuts text kinds) (relation : Relation) :
    standard.Cuts (relation.text.toList ++ ' ' :: text) (.relation relation :: kinds) := by
  have reads : tokenKind .relation relation.text.toList 0 = .ok (.relation relation) := by
    simp only [tokenKind, String.ofList_toList, Relation.ofText?_text]
  exact (cuts.blank_cons (by decide)).token_append (next?_relation relation text) (by decide) reads

/-- A text with a blank behind it keeps its tokens where the start of a relation follows. -/
theorem Cuts.append {first rest : List Char} {start : Char} {kinds others : List TokenKind}
    (cuts : standard.Cuts first kinds) (starts : start ∈ relationStarts)
    (restCuts : standard.Cuts (start :: rest) others) :
    standard.Cuts (first ++ ' ' :: start :: rest) (kinds ++ others) := by
  induction cuts with
  | nothing => exact restCuts.blank_cons (by decide)
  | @blank text count kinds nonempty next cuts induction =>
    have within := (count_of_next? next).2
    by_cases inner : count < text.length
    · refine .blank (by simp) (next?_append starts nonempty next fun _ => inner) ?_
      rw [List.drop_append_of_le_length within]
      exact induction
    · -- The blank in between belongs to the white space at the end.
      have outer := Nat.le_of_not_lt inner
      rw [List.drop_eq_nil_of_le outer] at cuts
      cases cuts with
      | nothing =>
        refine .blank (by simp) (next?_append_blank starts nonempty next outer) ?_
        rw [List.drop_append, Nat.add_sub_cancel_left, List.drop_eq_nil_of_le (Nat.le_succ _)]
        exact restCuts
      | blank nonempty => exact absurd rfl nonempty
      | token nonempty => exact absurd rfl nonempty
  | @token text count type kind kinds nonempty next kept reads _ induction =>
    have within := (count_of_next? next).2
    have joined : standard.next? (text ++ ' ' :: start :: rest) = some (count, type) :=
      next?_append starts nonempty next fun isWhitespace => absurd isWhitespace kept
    have joinedNonempty : text ++ ' ' :: start :: rest ≠ [] := by simp
    refine .token joinedNonempty joined kept ?_ ?_
    · rw [List.take_append_of_le_length within]
      exact reads
    · rw [List.drop_append_of_le_length within]
      exact induction

/-! ## Comparisons -/

theorem Cuts.tokenize {lexer : Lexer} {text : String} {kinds : List TokenKind}
    (cuts : lexer.Cuts text.toList kinds) :
    ∃ inner stop, lexer.tokenize text false = .ok (inner ++ [⟨.endOfInput, stop⟩]) ∧
      inner.map (·.kind) = kinds :=
  cuts.tokensFrom (Nat.le_refl _) 0

theorem cuts_of_tokenize {lexer : Lexer} {text : String} {tokens : List Token} {stop : Span}
    (tokenized : lexer.tokenize text false = .ok (tokens ++ [⟨.endOfInput, stop⟩])) :
    lexer.Cuts text.toList (tokens.map (·.kind)) := by
  rcases cuts_of_tokensFrom (Nat.le_refl _) tokenized with ⟨inner, last, equal, cuts⟩
  rcases List.append_inj' equal rfl with ⟨rfl, _⟩
  exact cuts

theorem tokenize_comparison {first second : String} {firstTokens secondTokens : List Token}
    {firstStop secondStop : Span}
    (firstCut : standard.tokenize first false = .ok (firstTokens ++ [⟨.endOfInput, firstStop⟩]))
    (secondCut : standard.tokenize second false = .ok (secondTokens ++ [⟨.endOfInput, secondStop⟩]))
    (relation : Relation) :
    ∃ inner stop, standard.tokenize (first ++ " " ++ relation.text ++ " " ++ second) false =
        .ok (inner ++ [⟨.endOfInput, stop⟩]) ∧
      inner.map (·.kind) =
        firstTokens.map (·.kind) ++ .relation relation :: secondTokens.map (·.kind) := by
  have after := (cuts_of_tokenize secondCut).relation_append relation
  rcases relation_starts relation with ⟨start, others, isText, starts⟩
  rw [isText, List.cons_append] at after
  have whole := (cuts_of_tokenize firstCut).append starts after
  refine Cuts.tokenize ?_
  have text : (first ++ " " ++ relation.text ++ " " ++ second).toList =
      first.toList ++ ' ' :: start :: (others ++ ' ' :: second.toList) := by
    simp [String.toList_append, isText]
  rw [text]
  exact whole

end Proviso.Lexer
