import Proviso.Proofs.Compiler.Places
import Proviso.Proofs.Token.Layout

/-!
Tokens in their text. They stand there one behind another, and each is made of the text under it. So
the text under a name is the name, and the text from the opening of a call to a parenthesis behind
it begins with the name of the function and ends with the parenthesis.
-/

namespace Proviso

open Text (byteLength isBlank)

/-! ## Spans -/

namespace Span

def IsBefore (first second : Span) : Prop :=
  first.stop.toNat ≤ second.start.toNat

def Encloses (outer inner : Span) : Prop :=
  outer.start.toNat ≤ inner.start.toNat ∧ inner.stop.toNat ≤ outer.stop.toNat

variable {text : List Char} {first second : Span}

theorem merge_of_isBefore (firstInside : first.LiesIn text) (secondInside : second.LiesIn text)
    (before : first.IsBefore second) : first.merge second = ⟨first.start, second.stop⟩ := by
  have firstOrdered := firstInside.ordered
  have secondOrdered := secondInside.ordered
  rw [IsBefore] at before
  rw [merge, if_pos (UInt32.le_iff_toNat_le.mpr (by omega)),
    if_pos (UInt32.le_iff_toNat_le.mpr (by omega))]

theorem slice_joined {start middle stop : UInt32} (firstInside : LiesIn text ⟨start, middle⟩)
    (secondInside : LiesIn text ⟨middle, stop⟩) :
    slice ⟨start, stop⟩ text = slice ⟨start, middle⟩ text ++ slice ⟨middle, stop⟩ text := by
  rcases firstInside.pointsAt with ⟨before, under, rest, isText, isStart, isMiddle, firstUnder, _⟩
  rcases secondInside.pointsAt with
    ⟨covered, behind, after, isCut, atMiddle, isStop, secondUnder, _⟩
  dsimp only at isStart isMiddle atMiddle isStop
  -- Both spans cut the text in the middle, so that the same is left behind it.
  have isRest : rest = behind ++ after := by
    have dropped := Text.dropBytes?_append (before ++ under) rest
    have droppedAgain := Text.dropBytes?_append covered (behind ++ after)
    rw [← isText, Text.byteLength_append, ← isMiddle] at dropped
    rw [← List.append_assoc, ← isCut, ← atMiddle] at droppedAgain
    exact Option.some.inj (dropped.symm.trans droppedAgain)
  have isWhole : text = before ++ (under ++ behind) ++ after := by
    rw [isText, isRest]
    simp only [List.append_assoc]
  have stop_eq : stop.toNat = byteLength before + byteLength (under ++ behind) := by
    rw [Text.byteLength_append]
    omega
  rw [firstUnder, secondUnder, slice, isStart, stop_eq, isWhole, Text.slice?_append]
  rfl

theorem exists_slice_merge (firstInside : first.LiesIn text) (secondInside : second.LiesIn text)
    (before : first.IsBefore second) :
    ∃ between, (first.merge second).slice text =
      first.slice text ++ between ++ second.slice text := by
  have gapInside : LiesIn text ⟨first.stop, second.start⟩ :=
    ⟨before, firstInside.stop, secondInside.start⟩
  have joinedInside : LiesIn text ⟨first.stop, second.stop⟩ :=
    ⟨Nat.le_trans before secondInside.ordered, firstInside.stop, secondInside.stop⟩
  refine ⟨slice ⟨first.stop, second.start⟩ text, ?_⟩
  rw [merge_of_isBefore firstInside secondInside before, slice_joined firstInside joinedInside,
    slice_joined gapInside secondInside, List.append_assoc]

end Span

/-! ## Tilings -/

namespace Token.Tile

variable {text : List Char} {position stop : Nat} {tokens : List Token}
  (tile : Tile text position tokens stop)

include tile

theorem nonempty : ∀ token ∈ tokens, token.span.start.toNat < token.span.stop.toNat := by
  induction tile with
  | nothing => exact List.forall_mem_nil _
  | token _ nonempty _ induction => exact List.forall_mem_cons.mpr ⟨nonempty, induction⟩

theorem le_start : ∀ token ∈ tokens, position ≤ token.span.start.toNat := by
  induction tile with
  | nothing => exact List.forall_mem_nil _
  | token _ nonempty _ induction =>
    refine List.forall_mem_cons.mpr ⟨Nat.le_refl _, fun token member => ?_⟩
    exact Nat.le_trans (Nat.le_of_lt nonempty) (induction token member)

theorem isBefore : tokens.Pairwise fun first second => first.span.IsBefore second.span := by
  induction tile with
  | nothing => exact .nil
  | token _ _ others induction => exact .cons others.le_start induction

end Token.Tile

/-! ## The text of a token -/

namespace Lexer

/-- That a lexer makes a token of a kind of a text that stands in front of another one. -/
def Makes (lexer : Lexer) (under : List Char) (kind : TokenKind) : Prop :=
  ∃ rest type, lexer.next? (under ++ rest) = some (under.length, type) ∧
    tokenKind type under 0 = .ok kind

theorem token?_of_not_symbol {rule : LexerRule} (member : rule ∈ standard) {chars : List Char}
    (isSymbol : symbol? rule.type = some chars) {text : List Char} (differs : ¬ chars <+: text) :
    token? rule text = none := by
  have spelled := List.all_eq_true.mp standard_spelled rule member
  rw [isSpelled, isSymbol, Bool.and_eq_true] at spelled
  rw [token?, (Automaton.readsUpTo_of_check spelled.1).find?_of_differs differs]

theorem eq_symbol_of_next? {word rest : List Char} {type : TokenType}
    (next : standard.next? (word ++ rest) = some (word.length, type)) {chars : List Char}
    (isSymbol : symbol? type = some chars) : word = chars := by
  rcases List.exists_of_findSome?_eq_some next with ⟨rule, member, taken⟩
  change token? rule (word ++ rest) = some (word.length, type) at taken
  have isType := type_of_token? taken
  by_cases isPrefix : chars <+: word ++ rest
  · rcases isPrefix with ⟨behind, isWhole⟩
    rw [← isWhole, token?_symbol member (isType ▸ isSymbol)] at taken
    have sameLength : word.length = chars.length := (Prod.mk.inj (Option.some.inj taken)).1.symm
    exact (List.append_inj isWhole sameLength.symm).1.symm
  · rw [token?_of_not_symbol member (isType ▸ isSymbol) isPrefix] at taken
    cases taken

namespace Makes

variable {under : List Char}

theorem identifier_eq {lexer : Lexer} {path : String}
    (makes : lexer.Makes under (.identifier path)) : under = path.toList := by
  rcases makes with ⟨rest, type, next, reads⟩
  have isType := type_of_tokenKind reads
  subst isType
  cases reads
  exact String.toList_ofList.symm

theorem symbol_eq {kind : TokenKind} (makes : standard.Makes under kind) {chars : List Char}
    (isSymbol : symbol? kind.type = some chars) : under = chars := by
  rcases makes with ⟨rest, type, next, reads⟩
  rw [type_of_tokenKind reads] at isSymbol
  exact eq_symbol_of_next? next isSymbol

theorem exists_functionOpen {name : String} (makes : standard.Makes under (.functionOpen name)) :
    ∃ blanks, under = name.toList ++ blanks ++ ['('] ∧ ∀ char ∈ blanks, isBlank char = true := by
  rcases makes with ⟨rest, type, next, reads⟩
  have isType := type_of_tokenKind reads
  subst isType
  rcases exists_isCallee_of_next? next with ⟨callee, blanks, rfl, isCallee, allBlank⟩
  cases reads
  refine ⟨blanks, ?_, allBlank⟩
  rw [String.toList_ofList, trimParentheses_append isCallee.allWord allBlank]

end Makes

theorem Scans.makes {lexer : Lexer} {position finish : Nat} {text rest : List Char}
    {tokens : List Token} (scans : lexer.Scans position text tokens finish rest)
    {before whole : List Char} (isWhole : whole = before ++ text)
    (isPosition : byteLength before = position) (short : byteLength whole < 2 ^ 32) :
    ∀ token ∈ tokens, lexer.Makes (token.span.slice whole) token.kind := by
  induction scans generalizing before with
  | nothing => exact List.forall_mem_nil _
  | @token position finish count text rest type kind tokens nonempty next reads _ induction =>
    subst isPosition
    have isSplit : whole = before ++ text.take count ++ text.drop count := by
      rw [isWhole, List.append_assoc, List.take_append_drop]
    refine List.forall_mem_cons.mpr ⟨?_, induction isSplit (Text.byteLength_append ..)⟩
    rw [isSplit] at short ⊢
    rw [slice_tokenAt short kind]
    refine ⟨text.drop count, type, ?_, tokenKind_eq_ok reads 0⟩
    rw [List.take_append_drop, List.length_take_of_le (count_of_next? next).2]
    exact next

end Lexer

/-! ## Rows -/

theorem TokenStream.tokens_ofTokens_sublist (tokens : List Token) (stop : Span) :
    (ofTokens (tokens ++ [⟨.endOfInput, stop⟩])).tokens.Sublist tokens := by
  unfold ofTokens
  split
  case h_1 =>
    dsimp only
    rw [List.takeWhile_append]
    split
    case isTrue =>
      change (tokens ++ []).Sublist tokens
      rw [List.append_nil]
    case isFalse => exact List.takeWhile_sublist _
  case h_2 missing =>
    have isLast : (⟨.endOfInput, stop⟩ : Token) ∈ tokens ++ [⟨.endOfInput, stop⟩] := by simp
    exact absurd rfl (List.find?_eq_none.mp missing _ isLast)

/-- Tokens that stand in a text one behind another. None is empty, and each is made of the text
under it. -/
structure Lexer.InRow (lexer : Lexer) (text : List Char) (tokens : List Token) : Prop where
  inside : ∀ token ∈ tokens, token.span.LiesIn text
  nonempty : ∀ token ∈ tokens, token.span.start.toNat < token.span.stop.toNat
  isBefore : tokens.Pairwise fun first second => first.span.IsBefore second.span
  makes : ∀ token ∈ tokens, lexer.Makes (token.span.slice text) token.kind

namespace Lexer

variable {lexer : Lexer}

namespace InRow

variable {text : List Char} {token : Token} {tokens others : List Token}

theorem sublist (row : lexer.InRow text tokens) (among : others.Sublist tokens) :
    lexer.InRow text others where
  inside token member := row.inside token (among.subset member)
  nonempty token member := row.nonempty token (among.subset member)
  isBefore := row.isBefore.sublist among
  makes token member := row.makes token (among.subset member)

theorem left (row : lexer.InRow text (tokens ++ others)) : lexer.InRow text tokens :=
  row.sublist (List.sublist_append_left ..)

theorem right (row : lexer.InRow text (tokens ++ others)) : lexer.InRow text others :=
  row.sublist (List.sublist_append_right ..)

theorem head (row : lexer.InRow text (token :: tokens)) : lexer.InRow text [token] :=
  row.sublist (List.singleton_sublist.mpr (List.mem_cons_self ..))

theorem tail (row : lexer.InRow text (token :: tokens)) : lexer.InRow text tokens :=
  row.sublist (List.sublist_cons_self ..)

end InRow

/-- The tokens that a text is cut into stand in a row, up to the one for its end. -/
theorem inRow_of_tokenize {source : String} (short : byteLength source.toList < 2 ^ 32)
    {keepWhitespace : Bool} {tokens : List Token}
    (cut : lexer.tokenize source keepWhitespace = .ok tokens) :
    lexer.InRow source.toList (TokenStream.ofTokens tokens).tokens := by
  rcases exists_scans lexer (Nat.le_refl source.toList.length) 0 with
    ⟨scanned, finish, rest, scans, _, ⟨_, succeeds⟩ | ⟨fault, _, fails⟩⟩
  · cases cut.symm.trans (succeeds keepWhitespace)
    have tile := scans.tile (List.nil_append _).symm rfl short
    have row : lexer.InRow source.toList scanned :=
      ⟨fun token => tile.liesIn, tile.nonempty, tile.isBefore,
        scans.makes (List.nil_append _).symm rfl short⟩
    refine row.sublist ((TokenStream.tokens_ofTokens_sublist _ _).trans ?_)
    exact List.filter_sublist
  · cases cut.symm.trans (fails keepWhitespace)

end Lexer

end Proviso
