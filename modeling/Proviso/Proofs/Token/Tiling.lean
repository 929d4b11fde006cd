import Proviso.Proofs.Token.Cuts

/-!
How cutting a text goes over it. The tokens, white space among them, cover the text from its start
without a gap and without overlap. Cutting goes on until nothing is left, no rule makes a token of
what is left, or a token cannot be read. Whether white space is kept makes no other difference.
-/

namespace Proviso

open Text (byteLength Boundary)

/-- Tokens that cover a text from one byte position up to another. Each begins where the one
before it ends, between two characters, and none is empty. -/
inductive Token.Tile (text : List Char) : Nat → List Token → Nat → Prop where
  | nothing {position : Nat} (boundary : Boundary text position) : Tile text position [] position
  | token {stop : Nat} {first : Token} {rest : List Token}
    (boundary : Boundary text first.span.start.toNat)
    (nonempty : first.span.start.toNat < first.span.stop.toNat)
    (others : Tile text first.span.stop.toNat rest stop) :
    Tile text first.span.start.toNat (first :: rest) stop

namespace Lexer

open Outcome

def tokenAt (position : Nat) (text : List Char) (kind : TokenKind) : Token :=
  ⟨kind, Span.ofNat position (position + byteLength text)⟩

/-- The tokens, white space among them, that are cut off a text at a position, one after another,
with the place that is reached and what is left there. -/
inductive Scans (lexer : Lexer) : Nat → List Char → List Token → Nat → List Char → Prop where
  | nothing {position : Nat} {text : List Char} : Scans lexer position text [] position text
  | token {position finish count : Nat} {text rest : List Char} {type : TokenType}
    {kind : TokenKind} {tokens : List Token} (nonempty : text ≠ [])
    (next : lexer.next? text = some (count, type))
    (reads : tokenKind type (text.take count) (UInt32.ofNat position).toNat = .ok kind)
    (others : Scans lexer (position + byteLength (text.take count)) (text.drop count) tokens finish
      rest) :
    Scans lexer position text (tokenAt position (text.take count) kind :: tokens) finish rest

/-- Why no token is cut off a text at a position: no rule makes one, or it cannot be read. -/
inductive Stuck (lexer : Lexer) (position : Nat) (text : List Char) : Fault → Prop where
  | unmatched (nonempty : text ≠ []) (next : lexer.next? text = none) :
    Stuck lexer position text (.lexical (String.ofList text) position)
  | unread {count : Nat} {type : TokenType} {fault : Fault} (nonempty : text ≠ [])
    (next : lexer.next? text = some (count, type))
    (fails : tokenKind type (text.take count) (UInt32.ofNat position).toNat = .error fault) :
    Stuck lexer position text fault

/-! ## The scan -/

theorem type_of_tokenKind {type : TokenType} {text : List Char} {position : Nat}
    {kind : TokenKind} (reads : tokenKind type text position = .ok kind) : kind.type = type := by
  cases type with
  | relation | integer | float =>
    simp only [tokenKind] at reads
    split at reads <;> cases reads
    rfl
  | _ => cases reads; rfl

theorem type_ne_whitespace_of_tokenKind {type : TokenType} {text : List Char} {position : Nat}
    {fault : Fault} (fails : tokenKind type text position = .error fault) : type ≠ .whitespace := by
  rintro rfl
  cases fails

def given (keepWhitespace : Bool) (tokens : List Token) : List Token :=
  tokens.filter fun token => isKept keepWhitespace token.kind.type

@[simp] theorem given_all (tokens : List Token) : given true tokens = tokens := by
  simp [given, isKept]

section

variable {lexer : Lexer} {char : Char} {following : List Char} {count : Nat} {type : TokenType}
  (next : lexer.next? (char :: following) = some (count, type))

include next

theorem tokensFrom_unread {position : Nat} {fault : Fault}
    (fails : tokenKind type ((char :: following).take count) (UInt32.ofNat position).toNat =
      .error fault) (keepWhitespace : Bool) (fuel : Nat) :
    lexer.tokensFrom keepWhitespace (fuel + 1) position (char :: following) = .error fault := by
  have kept : isKept keepWhitespace type = true := by
    simp [isKept, type_ne_whitespace_of_tokenKind fails]
  simp only [tokensFrom, next, kept, if_true]
  exact congrArg (· >>= _) fails

theorem tokensFrom_token {position : Nat} {kind : TokenKind}
    (reads : tokenKind type ((char :: following).take count) (UInt32.ofNat position).toNat =
      .ok kind) (keepWhitespace : Bool) (fuel : Nat) :
    lexer.tokensFrom keepWhitespace (fuel + 1) position (char :: following) =
      (lexer.tokensFrom keepWhitespace fuel
        (position + byteLength ((char :: following).take count))
        ((char :: following).drop count)).map
          (given keepWhitespace [tokenAt position ((char :: following).take count) kind] ++ ·) := by
  have isType := type_of_tokenKind reads
  simp only [tokensFrom, next, given, List.filter_cons, tokenAt, isType, List.filter_nil]
  cases isKept keepWhitespace type with
  | false => exact (id_map _).symm
  | true => exact congrArg (· >>= _) reads

end

theorem exists_scans (lexer : Lexer) {fuel : Nat} {text : List Char} (enough : text.length ≤ fuel)
    (position : Nat) :
    ∃ tokens finish rest, lexer.Scans position text tokens finish rest ∧
      tokens.length ≤ text.length ∧
      (rest = [] ∧ (∀ keepWhitespace, lexer.tokensFrom keepWhitespace fuel position text =
          .ok (given keepWhitespace tokens ++ [⟨.endOfInput, Span.point finish⟩])) ∨
        ∃ fault, lexer.Stuck finish rest fault ∧ ∀ keepWhitespace,
          lexer.tokensFrom keepWhitespace fuel position text = .error fault) := by
  induction fuel generalizing position text with
  | zero =>
    rcases List.length_eq_zero_iff.mp (Nat.le_zero.mp enough) with rfl
    exact ⟨[], position, [], .nothing, Nat.le_refl _, .inl ⟨rfl, fun _ => rfl⟩⟩
  | succ fuel induction =>
    rcases text with _ | ⟨char, following⟩
    · exact ⟨[], position, [], .nothing, Nat.le_refl _, .inl ⟨rfl, fun _ => rfl⟩⟩
    have nonempty : char :: following ≠ [] := List.cons_ne_nil _ _
    cases next : lexer.next? (char :: following) with
    | none =>
      refine ⟨[], position, _, .nothing, Nat.zero_le _, .inr ⟨_, .unmatched nonempty next, ?_⟩⟩
      intro keepWhitespace
      simp only [tokensFrom, next]
    | some found =>
      rcases found with ⟨count, type⟩
      let taken := (char :: following).take count
      cases reads : tokenKind type taken (UInt32.ofNat position).toNat with
      | error fault =>
        exact ⟨[], position, _, .nothing, Nat.zero_le _, .inr ⟨fault, .unread nonempty next reads,
          fun keepWhitespace => tokensFrom_unread next reads keepWhitespace fuel⟩⟩
      | ok kind =>
        -- A token has a character at least, so that the steps left are enough for what is left.
        rcases count_of_next? next with ⟨positive, within⟩
        rcases induction (length_drop_le positive enough) (position + byteLength taken) with
          ⟨tokens, finish, rest, scans, fewer, outcome⟩
        refine ⟨_ :: tokens, finish, rest, .token nonempty next reads scans, ?_, ?_⟩
        · rw [List.length_drop] at fewer
          rw [List.length_cons]
          omega
        · rcases outcome with ⟨isEmpty, succeeds⟩ | ⟨fault, stuck, fails⟩
          · refine .inl ⟨isEmpty, fun keepWhitespace => ?_⟩
            have isSplit : given keepWhitespace (tokenAt position taken kind :: tokens) =
                given keepWhitespace [tokenAt position taken kind] ++ given keepWhitespace tokens :=
              List.filter_append [_] tokens
            rw [tokensFrom_token next reads, succeeds, isSplit, List.append_assoc]
            rfl
          · refine .inr ⟨fault, stuck, fun keepWhitespace => ?_⟩
            rw [tokensFrom_token next reads, fails]
            rfl

/-! ## What the scan covers -/

theorem Scans.exists_inner {lexer : Lexer} {text rest : List Char} {tokens : List Token}
    {position finish : Nat} (scans : lexer.Scans position text tokens finish rest) :
    ∃ inner, text = inner ++ rest ∧ position + byteLength inner = finish := by
  induction scans with
  | nothing => exact ⟨[], rfl, rfl⟩
  | @token position finish count text rest _ _ _ _ _ _ _ induction =>
    rcases induction with ⟨inner, isInner, finished⟩
    refine ⟨text.take count ++ inner, ?_, ?_⟩
    · rw [List.append_assoc, ← isInner, List.take_append_drop]
    · rw [Text.byteLength_append, ← Nat.add_assoc, finished]

theorem Scans.tile {lexer : Lexer} {before text rest whole : List Char} {tokens : List Token}
    {position finish : Nat} (scans : lexer.Scans position text tokens finish rest)
    (isWhole : whole = before ++ text) (isPosition : byteLength before = position)
    (short : byteLength whole < 2 ^ 32) : Token.Tile whole position tokens finish := by
  induction scans generalizing before with
  | nothing =>
    subst isWhole isPosition
    exact .nothing ⟨before, _, rfl, rfl⟩
  | @token position finish count text rest type kind tokens nonempty next reads others induction =>
    subst isPosition
    let taken := text.take count
    have positive : 0 < byteLength taken := by
      rcases count_of_next? next with ⟨positive, within⟩
      have counted := Text.length_le_byteLength taken
      rw [List.length_take_of_le within] at counted
      exact Nat.lt_of_lt_of_le positive counted
    have isSplit : whole = before ++ taken ++ text.drop count := by
      rw [isWhole, List.append_assoc, List.take_append_drop]
    have total : byteLength before + byteLength taken + byteLength (text.drop count) =
        byteLength whole := by
      rw [isSplit, Text.byteLength_append, Text.byteLength_append]
    -- The text is short enough for places that are cut to 32 bits.
    have start : (tokenAt (byteLength before) taken kind).span.start.toNat = byteLength before := by
      rw [tokenAt, Span.start_ofNat, Nat.mod_eq_of_lt (by omega)]
    have stop : (tokenAt (byteLength before) taken kind).span.stop.toNat =
        byteLength before + byteLength taken := by
      rw [tokenAt, Span.stop_ofNat, Nat.mod_eq_of_lt (by omega)]
    have tile := induction isSplit (Text.byteLength_append ..)
    have boundary : Boundary whole (byteLength before) := ⟨before, _, isWhole, rfl⟩
    rw [← start] at boundary
    rw [← stop] at tile
    have tiled := tile.token boundary (by omega)
    rwa [start] at tiled

/-! ## What stops a scan -/

theorem fault_of_tokenKind {type : TokenType} {text : List Char} {position : Nat} {fault : Fault}
    (fails : tokenKind type text position = .error fault) :
    fault = .lexical (String.ofList text) position ∨ type = .relation ∧
      fault = .relation (String.ofList text) ∧ Relation.ofText? (String.ofList text) = none := by
  cases type with
  | integer | float =>
    simp only [tokenKind] at fails
    split at fails <;> cases fails
    exact .inl rfl
  | relation =>
    simp only [tokenKind] at fails
    split at fails <;> cases fails
    case h_2 unknown => exact .inr ⟨rfl, rfl, unknown⟩
  | _ => cases fails

/-- What stops a scan is blamed on text at the place that it reached, or on a rule for relations
that took something else there. -/
theorem Stuck.cause {lexer : Lexer} {position : Nat} {text : List Char} {fault : Fault}
    (stuck : lexer.Stuck position text fault) :
    (∃ residual ≠ [], residual <+: text ∧
        (fault = .lexical (String.ofList residual) position ∨
          fault = .lexical (String.ofList residual) (position % 2 ^ 32))) ∨
      ∃ count, lexer.next? text = some (count, .relation) ∧
        Relation.ofText? (String.ofList (text.take count)) = none ∧
          fault = .relation (String.ofList (text.take count)) := by
  cases stuck with
  | unmatched nonempty next =>
    exact .inl ⟨text, nonempty, List.prefix_refl text, .inl rfl⟩
  | @unread count type fault nonempty next fails =>
    rcases fault_of_tokenKind fails with rfl | ⟨rfl, rfl, unknown⟩
    · refine .inl ⟨text.take count, ?_, List.take_prefix count text, .inr ?_⟩
      · rw [Ne, List.take_eq_nil_iff, not_or]
        exact ⟨Nat.ne_of_gt (count_of_next? next).1, nonempty⟩
      · rw [UInt32.toNat_ofNat']
    · exact .inr ⟨count, next, unknown, rfl⟩

/-! ## Whole texts -/

theorem tokenize_without_whitespace (lexer : Lexer) (text : String) :
    lexer.tokenize text false =
      (lexer.tokenize text true).map
        (List.filter fun token => token.kind.type != .whitespace) := by
  rcases exists_scans lexer (Nat.le_refl text.toList.length) 0 with
    ⟨tokens, finish, rest, _, _, ⟨_, succeeds⟩ | ⟨fault, _, fails⟩⟩
  · have filtered : (tokens ++ [(⟨.endOfInput, Span.point finish⟩ : Token)]).filter
        (fun token => token.kind.type != .whitespace) =
          given false tokens ++ [⟨.endOfInput, Span.point finish⟩] :=
      List.filter_append ..
    rw [tokenize, tokenize, succeeds, succeeds, given_all]
    exact congrArg Except.ok filtered.symm
  · rw [tokenize, tokenize, fails, fails]
    rfl

section

variable {lexer : Lexer} {text : String} (short : byteLength text.toList < 2 ^ 32)

include short

theorem tile_of_tokenize {all : List Token} (succeeds : lexer.tokenize text true = .ok all) :
    ∃ tokens stop, all = tokens ++ [⟨.endOfInput, stop⟩] ∧
      Token.Tile text.toList 0 tokens (byteLength text.toList) ∧
      stop.start.toNat = byteLength text.toList ∧ stop.stop.toNat = byteLength text.toList := by
  rcases exists_scans lexer (Nat.le_refl text.toList.length) 0 with
    ⟨tokens, finish, rest, scans, _, ⟨rfl, gives⟩ | ⟨fault, _, fails⟩⟩
  · have tile := scans.tile (List.nil_append _).symm rfl short
    rcases scans.exists_inner with ⟨inner, isText, isFinish⟩
    cases succeeds.symm.trans (gives true)
    rw [Nat.zero_add] at isFinish
    rw [List.append_nil] at isText
    subst isText isFinish
    refine ⟨tokens, _, by rw [given_all], tile, ?_, ?_⟩
    · rw [Span.point, Span.start_ofNat, Nat.mod_eq_of_lt short]
    · rw [Span.point, Span.stop_ofNat, Nat.mod_eq_of_lt short]
  · cases succeeds.symm.trans (fails true)

theorem scans_of_lexical {keepWhitespace : Bool} {residual : String} {position : Nat}
    (stops : lexer.tokenize text keepWhitespace = .error (.lexical residual position)) :
    ∃ before after tokens, text.toList = before ++ after ∧ byteLength before = position ∧
      residual.toList ≠ [] ∧ residual.toList <+: after ∧
        lexer.Scans 0 text.toList tokens position after ∧
          Token.Tile text.toList 0 tokens position := by
  rcases exists_scans lexer (Nat.le_refl text.toList.length) 0 with
    ⟨tokens, finish, rest, scans, _, ⟨_, succeeds⟩ | ⟨fault, stuck, fails⟩⟩
  · cases stops.symm.trans (succeeds keepWhitespace)
  · have tile := scans.tile (List.nil_append _).symm rfl short
    rcases scans.exists_inner with ⟨inner, isText, isFinish⟩
    cases stops.symm.trans (fails keepWhitespace)
    rw [Nat.zero_add] at isFinish
    have total : finish + byteLength rest = byteLength text.toList := by
      rw [isText, Text.byteLength_append, isFinish]
    have within : finish % 2 ^ 32 = finish := Nat.mod_eq_of_lt (by omega)
    rcases stuck.cause with ⟨text, nonempty, isPrefix, isFault⟩ | ⟨_, _, _, isFault⟩
    · rw [within, or_self] at isFault
      cases isFault
      rw [String.toList_ofList]
      exact ⟨inner, rest, tokens, isText, isFinish, nonempty, isPrefix, scans, tile⟩
    · cases isFault

end

/-- That a lexer goes over the whole of a text. A scan ends, with at most one token for each
character, where nothing is left or where it is stuck. White space that is not kept is left out
and changes nothing else. The tokens of a text cover it, and the one for its end stands there. A
lexical fault is blamed on text at a boundary up to which there are tokens. -/
structure Exhausts (lexer : Lexer) (text : String) : Prop where
  ends : ∃ tokens finish rest, lexer.Scans 0 text.toList tokens finish rest ∧
    tokens.length ≤ text.toList.length ∧
      (rest = [] ∧ (∃ all, lexer.tokenize text true = .ok all) ∨
        ∃ fault, lexer.Stuck finish rest fault ∧ lexer.tokenize text true = .error fault)
  alike : lexer.tokenize text false =
    (lexer.tokenize text true).map (List.filter fun token => token.kind.type != .whitespace)
  covers : ∀ all, lexer.tokenize text true = .ok all → ∃ tokens stop,
    all = tokens ++ [⟨.endOfInput, stop⟩] ∧
      Token.Tile text.toList 0 tokens (byteLength text.toList) ∧
      stop.start.toNat = byteLength text.toList ∧ stop.stop.toNat = byteLength text.toList
  blames : ∀ keepWhitespace residual position,
    lexer.tokenize text keepWhitespace = .error (.lexical residual position) →
      ∃ before after tokens, text.toList = before ++ after ∧ byteLength before = position ∧
        residual.toList ≠ [] ∧ residual.toList <+: after ∧
          lexer.Scans 0 text.toList tokens position after ∧ Token.Tile text.toList 0 tokens position

theorem exhausts (lexer : Lexer) {text : String} (short : byteLength text.toList < 2 ^ 32) :
    lexer.Exhausts text := by
  constructor
  case ends =>
    rcases exists_scans lexer (Nat.le_refl text.toList.length) 0 with
      ⟨tokens, finish, rest, scans, fewer, outcome⟩
    refine ⟨tokens, finish, rest, scans, fewer, ?_⟩
    exact outcome.imp (fun succeeds => ⟨succeeds.1, _, succeeds.2 true⟩)
      fun ⟨fault, stuck, fails⟩ => ⟨fault, stuck, fails true⟩
  case alike => exact lexer.tokenize_without_whitespace text
  case covers => exact fun all => tile_of_tokenize short
  case blames => exact fun keepWhitespace residual position => scans_of_lexical short

/-- The patterns can match nothing, and the last character has no rule. -/
theorem exhausts_accents : ∃ lexer,
    ofTable [("a*", .identifier), ("\\s*", .whitespace), ("é|()", .comma)] = .ok lexer ∧
      byteLength "aa é ?".toList < 2 ^ 32 ∧ lexer.Exhausts "aa é ?" := by
  have readable : (ofTable [("a*", .identifier), ("\\s*", .whitespace),
      ("é|()", .comma)]).toOption.any (fun _ => true) = true := by
    decide +kernel
  rcases exists_eq_ok_of_any readable with ⟨lexer, isRead, _⟩
  have short : byteLength "aa é ?".toList < 2 ^ 32 := by decide
  exact ⟨lexer, isRead, short, lexer.exhausts short⟩

end Lexer

end Proviso
