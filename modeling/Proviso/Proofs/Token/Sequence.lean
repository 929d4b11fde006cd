import Proviso.Proofs.Token.Written

/-!
Sequences of tokens as conditions are written. What is said of a value or a condition is that it is
cut into its tokens wherever a value can end behind it; this carries over to negations, to groups of
two operands, and to calls.
-/

namespace Proviso.Lexer

/-- That a text is cut into tokens wherever a value can end behind it. It does not begin like a
relation. -/
structure WrittenAs (text : List Char) (kinds : List TokenKind) : Prop where
  begins : ∃ char others, text = char :: others ∧ char ≠ '='
  cuts : ∀ {rest : List Char} {others : List TokenKind}, Closes rest → standard.Cuts rest others →
    standard.Cuts (text ++ rest) (kinds ++ others)

theorem Cuts.symbol_append {text : List Char} {kinds : List TokenKind}
    (cuts : standard.Cuts text kinds) (type : TokenType) {chars : List Char} {kind : TokenKind}
    (isSymbol : symbol? type = some chars) (noRelation : type ≠ .not)
    (reads : tokenKind type chars 0 = .ok kind) :
    standard.Cuts (chars ++ text) (kind :: kinds) := by
  refine cuts.token_append (next?_symbol isSymbol noRelation text) ?_ reads
  rintro rfl
  cases isSymbol

namespace WrittenAs

variable {text left right : List Char} {kinds leftKinds rightKinds : List TokenKind}

/-! ## Single tokens -/

theorem token {type : TokenType} {kind : TokenKind}
    (begins : ∃ char others, text = char :: others ∧ char ≠ '=')
    (next : ∀ {rest : List Char}, Closes rest →
      standard.next? (text ++ rest) = some (text.length, type))
    (kept : type ≠ .whitespace) (reads : tokenKind type text 0 = .ok kind) :
    WrittenAs text [kind] :=
  ⟨begins, fun closes cuts => cuts.token_append (next closes) kept reads⟩

theorem path {path : String} (isPath : IsPath path.toList) :
    WrittenAs path.toList [.identifier path] := by
  refine token ?_ isPath.next? (by decide) ?_
  · rcases isPath.begins with ⟨char, others, equal, starts, _⟩
    refine ⟨char, others, equal, ?_⟩
    rintro rfl
    revert starts
    decide
  · rw [tokenKind, String.ofList_toList]

theorem number (word : Int64) : WrittenAs (Number.signedDecimal word.toInt) [.integer word] := by
  refine token ?_ (next?_signedDecimal word.toInt) (by decide) ?_
  · rcases List.exists_cons_of_ne_nil (signedDecimal_ne_nil word.toInt) with ⟨char, others, equal⟩
    refine ⟨char, others, equal, ?_⟩
    rintro rfl
    have among : '=' ∈ Number.signedDecimal word.toInt := equal ▸ List.mem_cons_self ..
    exact absurd (mem_numberChars_of_mem_signedDecimal among) (by decide)
  · simp only [tokenKind, Number.readInt64?_signedDecimal]

theorem keyword (type : TokenType) {kind : TokenKind} (isKeyword : keyword? type = some text)
    (reads : tokenKind type text 0 = .ok kind) : WrittenAs text [kind] := by
  refine token ?_ (fun closes => ?_) ?_ reads
  · cases type <;> cases isKeyword <;> exact ⟨_, _, rfl, by decide⟩
  · exact next?_keyword isKeyword closes.isWordAt_eq
  · rintro rfl
    cases isKeyword

theorem quoted {text : String} (plain : IsPlainText text.toList) :
    WrittenAs ('\'' :: text.toList ++ ['\'']) [.string text] := by
  refine token ⟨_, _, rfl, by decide⟩ (fun _ => next?_quoted plain _) (by decide) ?_
  rw [tokenKind, unquote_of_plain plain, String.ofList_toList]

/-! ## Operations -/

theorem not (written : WrittenAs text kinds) : WrittenAs ('!' :: text) (.not :: kinds) := by
  refine ⟨⟨_, _, rfl, by decide⟩, fun {rest others} closes cuts => ?_⟩
  rcases written.begins with ⟨char, behind, rfl, different⟩
  have alone : (char :: behind ++ rest).head? ≠ some '=' := by simpa using different
  have next : standard.next? (['!'] ++ (char :: behind ++ rest)) = some (['!'].length, .not) :=
    next?_not alone
  exact (written.cuts closes cuts).token_append next (by decide) rfl

theorem group (leftWritten : WrittenAs left leftKinds) (rightWritten : WrittenAs right rightKinds)
    {operator : List Char} {kind : TokenKind}
    (begins : ∃ start others, operator = start :: others ∧ start ∈ operatorStarts)
    (joint : ∀ {text : List Char} {kinds : List TokenKind}, standard.Cuts text kinds →
      standard.Cuts (operator ++ ' ' :: text) (kind :: kinds)) :
    WrittenAs ('(' :: (left ++ ' ' :: (operator ++ ' ' :: (right ++ [')']))))
      (.leftParenthesis :: (leftKinds ++ kind :: (rightKinds ++ [.rightParenthesis]))) := by
  refine ⟨⟨_, _, rfl, by decide⟩, fun {rest others} closes cuts => ?_⟩
  have closed : standard.Cuts (')' :: rest) (.rightParenthesis :: others) :=
    cuts.symbol_append .rightParenthesis rfl (by decide) rfl
  have behind := joint (rightWritten.cuts (.parenthesis rest) closed)
  rcases begins with ⟨start, others, rfl, starts⟩
  have whole := leftWritten.cuts (.operator starts _) (behind.blank_cons (by decide))
  have grouped := whole.symbol_append .leftParenthesis rfl (by decide) rfl
  simpa using grouped

theorem relation (leftWritten : WrittenAs left leftKinds)
    (rightWritten : WrittenAs right rightKinds) (relation : Relation) :
    WrittenAs ('(' :: (left ++ ' ' :: (relation.text.toList ++ ' ' :: (right ++ [')']))))
      (.leftParenthesis ::
        (leftKinds ++ .relation relation :: (rightKinds ++ [.rightParenthesis]))) := by
  refine leftWritten.group rightWritten ?_ fun cuts => cuts.relation_append relation
  rcases relation_starts relation with ⟨start, others, isText, starts⟩
  exact ⟨start, others, isText, List.mem_cons_of_mem _ (List.mem_cons_of_mem _ starts)⟩

theorem connective (leftWritten : WrittenAs left leftKinds)
    (rightWritten : WrittenAs right rightKinds) (type : TokenType) {operator : List Char}
    {kind : TokenKind} (isSymbol : symbol? type = some operator)
    (connects : type = .and ∨ type = .or) (reads : tokenKind type operator 0 = .ok kind) :
    WrittenAs ('(' :: (left ++ ' ' :: (operator ++ ' ' :: (right ++ [')']))))
      (.leftParenthesis :: (leftKinds ++ kind :: (rightKinds ++ [.rightParenthesis]))) := by
  refine leftWritten.group rightWritten ?_ fun cuts => ?_
  · rcases connects with rfl | rfl <;> cases isSymbol <;> exact ⟨_, _, rfl, by decide⟩
  · refine (cuts.blank_cons (by decide)).symbol_append type isSymbol ?_ reads
    rcases connects with rfl | rfl <;> decide

/-! ## Calls -/

theorem argument (firstWritten : WrittenAs left leftKinds)
    (restWritten : WrittenAs right rightKinds) :
    WrittenAs (left ++ ',' :: ' ' :: right) (leftKinds ++ .comma :: rightKinds) := by
  constructor
  case begins =>
    rcases firstWritten.begins with ⟨char, others, rfl, different⟩
    exact ⟨char, _, rfl, different⟩
  case cuts =>
    intro rest others closes cuts
    have blank : standard.Cuts (' ' :: (right ++ rest)) (rightKinds ++ others) :=
      (restWritten.cuts closes cuts).blank_cons (by decide)
    have behind := blank.symbol_append .comma rfl (by decide) rfl
    have whole := firstWritten.cuts (.comma _) behind
    simpa using whole

theorem tokenKind_opening {name : String} (callee : IsCallee name.toList) :
    tokenKind .functionOpen (name.toList ++ ['(']) 0 = .ok (.functionOpen name) := by
  have trimmed : trimParentheses (name.toList ++ [] ++ ['(']) = name.toList :=
    trimParentheses_append callee.allWord nofun
  rw [List.append_nil] at trimmed
  rw [tokenKind, trimmed, String.ofList_toList]

theorem call {name : String} (callee : IsCallee name.toList)
    (inside : ∀ {rest : List Char} {others : List TokenKind},
      standard.Cuts (')' :: rest) others → standard.Cuts (text ++ ')' :: rest) (kinds ++ others)) :
    WrittenAs (name.toList ++ '(' :: (text ++ [')']))
      (.functionOpen name :: (kinds ++ [.rightParenthesis])) := by
  constructor
  case begins =>
    rcases callee.begins with ⟨char, others, equal, starts⟩
    refine ⟨char, _, by rw [equal]; rfl, ?_⟩
    rintro rfl
    revert starts
    decide
  case cuts =>
    intro rest others closes cuts
    have closed : standard.Cuts (')' :: rest) (.rightParenthesis :: others) :=
      cuts.symbol_append .rightParenthesis rfl (by decide) rfl
    have behind := inside closed
    have next : standard.next? ((name.toList ++ ['(']) ++ (text ++ ')' :: rest)) =
        some ((name.toList ++ ['(']).length, .functionOpen) := by
      simpa using callee.next? (text ++ ')' :: rest)
    have whole := behind.token_append next (by decide) (tokenKind_opening callee)
    simpa using whole

end WrittenAs

end Proviso.Lexer
