import Proviso.Proofs.Token.Tiling

/-!
Texts between quotes. Every text can stand between quotes of either kind, with a backslash in front
of each backslash and of each quote of that kind: this is one token, and says the text.
-/

namespace Proviso

inductive Quote where
  | single
  | double

namespace Quote

def char : Quote → Char
  | .single => '\''
  | .double => '"'

def guardedChar (quote : Quote) (char : Char) : List Char :=
  if char = quote.char ∨ char = '\\' then ['\\', char] else [char]

def guarded (quote : Quote) (text : List Char) : List Char :=
  text.flatMap quote.guardedChar

def quotation (quote : Quote) (text : String) : String :=
  String.ofList (quote.char :: quote.guarded text.toList ++ [quote.char])

variable (quote : Quote)

theorem char_eq : quote.char = '"' ∨ quote.char = '\'' := by
  cases quote with
  | single => exact .inr rfl
  | double => exact .inl rfl

theorem guarded_cons_of_guarded {char : Char} (isGuarded : char = quote.char ∨ char = '\\')
    (text : List Char) : quote.guarded (char :: text) = '\\' :: char :: quote.guarded text := by
  rw [guarded, List.flatMap_cons, guardedChar, if_pos isGuarded]
  rfl

theorem guarded_cons_of_plain {char : Char} (plain : ¬ (char = quote.char ∨ char = '\\'))
    (text : List Char) : quote.guarded (char :: text) = char :: quote.guarded text := by
  rw [guarded, List.flatMap_cons, guardedChar, if_neg plain]
  rfl

end Quote

namespace Lexer

open Text (byteLength)

variable (quote : Quote)

/-! ## The end of a quotation -/

/-- The quote that closes a quotation is the first one without a backslash in front of it. -/
theorem quotedLength?_guarded (text rest : List Char) :
    quotedLength? quote.char false (quote.guarded text ++ quote.char :: rest) =
      some ((quote.guarded text).length + 1) := by
  have noSlash : '\\' ≠ quote.char := by cases quote <;> decide
  induction text with
  | nil => exact if_pos rfl
  | cons char text induction =>
    by_cases isGuarded : char = quote.char ∨ char = '\\'
    · have noLine : char ≠ '\n' := by
        rcases isGuarded with rfl | rfl
        · cases quote <;> decide
        · decide
      rw [quote.guarded_cons_of_guarded isGuarded, List.cons_append, List.cons_append,
        quotedLength?, if_neg noSlash, beq_self_eq_true, quotedLength?, if_neg noLine, induction]
      rfl
    · rw [quote.guarded_cons_of_plain isGuarded]
      rw [not_or] at isGuarded
      rw [List.cons_append, quotedLength?, if_neg isGuarded.1, beq_false_of_ne isGuarded.2,
        induction]
      rfl

theorem next?_quotation (text rest : List Char) :
    standard.next? ((quote.char :: quote.guarded text ++ [quote.char]) ++ rest) =
      some ((quote.char :: quote.guarded text ++ [quote.char]).length, .string) := by
  have behind : quote.guarded text ++ [quote.char] ++ rest =
      quote.guarded text ++ quote.char :: rest := by
    simp
  rw [List.cons_append, List.cons_append, behind, next?_of_quote quote.char_eq,
    quotedLength?_guarded]
  simp [Nat.add_comm 1]

/-! ## What a quotation says -/

theorem unescape_cons_of_ne {char : Char} (noSlash : char ≠ '\\') (rest : List Char) :
    unescape (char :: rest) = char :: unescape rest := by
  cases rest with
  | nil => rfl
  | cons next rest => rw [unescape, if_neg noSlash]

theorem unescape_guarded (text : List Char) : unescape (quote.guarded text) = text := by
  induction text with
  | nil => rfl
  | cons char text induction =>
    by_cases isGuarded : char = quote.char ∨ char = '\\'
    · have standsForItself : escapedChar char = char := by
        rcases isGuarded with rfl | rfl
        · cases quote <;> rfl
        · rfl
      rw [quote.guarded_cons_of_guarded isGuarded, unescape, if_pos rfl, standsForItself, induction]
    · rw [quote.guarded_cons_of_plain isGuarded,
        unescape_cons_of_ne (fun isSlash => isGuarded (.inr isSlash)), induction]

theorem unquote_quotation (text : List Char) :
    unquote (quote.char :: quote.guarded text ++ [quote.char]) = text := by
  have single : quote.char.utf8Size = 1 := by cases quote <;> rfl
  have stop : byteLength (quote.char :: quote.guarded text ++ [quote.char]) - 1 =
      byteLength [quote.char] + byteLength (quote.guarded text) := by
    simp only [List.cons_append, Text.byteLength_cons, Text.byteLength_append, Text.byteLength_nil,
      single]
    omega
  have start : byteLength [quote.char] = 1 := single
  have sliced : Text.slice? (quote.char :: quote.guarded text ++ [quote.char]) 1
      (byteLength (quote.char :: quote.guarded text ++ [quote.char]) - 1) =
        some (quote.guarded text) := by
    rw [stop]
    exact start ▸ Text.slice?_append [quote.char] (quote.guarded text) [quote.char]
  rw [unquote, sliced, Option.getD_some, unescape_guarded]

/-! ## Quotations alone -/

theorem tokensFrom_of_whole {lexer : Lexer} {char : Char} {rest : List Char} {type : TokenType}
    {kind : TokenKind} (next : lexer.next? (char :: rest) = some ((char :: rest).length, type))
    (reads : tokenKind type (char :: rest) 0 = .ok kind) (kept : type ≠ .whitespace)
    (keepWhitespace : Bool) :
    lexer.tokensFrom keepWhitespace (char :: rest).length 0 (char :: rest) =
      .ok [tokenAt 0 (char :: rest) kind,
        ⟨.endOfInput, Span.point (byteLength (char :: rest))⟩] := by
  have whole : (char :: rest).take (char :: rest).length = char :: rest := List.take_length
  have isGiven : given keepWhitespace [tokenAt 0 (char :: rest) kind] =
      [tokenAt 0 (char :: rest) kind] := by
    have isType : kind.type = type := type_of_tokenKind reads
    simp [given, isKept, tokenAt, isType, kept]
  have ended : lexer.tokensFrom keepWhitespace rest.length (byteLength (char :: rest)) [] =
      .ok [⟨.endOfInput, Span.point (byteLength (char :: rest))⟩] := by
    cases rest.length <;> rfl
  rw [← whole] at reads
  rw [List.length_cons, tokensFrom_token next (tokenKind_eq_ok reads _), whole, List.drop_length,
    Nat.zero_add, ended, isGiven]
  rfl

/-- Every text can be written between quotes of either kind. The quotation is one token, which says
the text, and the span of the token covers the whole of the quotation. -/
theorem tokenize_quotation (text : String) (keepWhitespace : Bool) :
    standard.tokenize (quote.quotation text) keepWhitespace =
        .ok [⟨.string text, Span.ofNat 0 (byteLength (quote.quotation text).toList)⟩,
          ⟨.endOfInput, Span.point (byteLength (quote.quotation text).toList)⟩] ∧
      (byteLength (quote.quotation text).toList < 2 ^ 32 →
        (Span.ofNat 0 (byteLength (quote.quotation text).toList)).slice
          (quote.quotation text).toList = (quote.quotation text).toList) := by
  constructor
  case left =>
    have next := next?_quotation quote text.toList []
    rw [List.append_nil] at next
    have reads : tokenKind .string (quote.char :: quote.guarded text.toList ++ [quote.char]) 0 =
        .ok (.string text) := by
      rw [tokenKind, unquote_quotation, String.ofList_toList]
    have single := tokensFrom_of_whole next reads (by decide) keepWhitespace
    rw [tokenAt, Nat.zero_add] at single
    rw [tokenize, Quote.quotation, String.toList_ofList]
    exact single
  case right =>
    intro short
    have sliced := Text.slice?_append [] (quote.quotation text).toList []
    rw [List.nil_append, List.append_nil, Text.byteLength_nil, Nat.zero_add] at sliced
    rw [Span.slice, Span.start_ofNat, Span.stop_ofNat, Nat.zero_mod, Nat.mod_eq_of_lt short, sliced,
      Option.getD_some]

end Lexer

end Proviso
