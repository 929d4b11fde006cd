import Proviso.Proofs.Condition.Direct
import Proviso.Proofs.Function.Arguments
import Proviso.Proofs.Grammar.Converse
import Proviso.Proofs.Grammar.Transfer
import Proviso.Proofs.Token.Sequence

/-!
Conditions read again from the text that shows how they are grouped. The text puts every operation
of two operands in parentheses, so that its phrase is another one: each such operation is a value,
and a negation stands in front of a value.
-/

namespace Proviso

open Outcome

/-! ## Conditions that are written as they are read -/

/-- Whether a literal of the value says the value again. -/
def Scalar.IsPrintable : Scalar → Prop
  | .float _ | .datetime _ => False
  | .string text => Lexer.IsPlainText text.toList
  | _ => True

instance : DecidablePred Scalar.IsPrintable
  | .float _ | .datetime _ => isFalse id
  | .string text => inferInstanceAs (Decidable (Lexer.IsPlainText text.toList))
  | .null | .bool _ | .int _ | .timespan _ | .guid _ | .enum _ => isTrue trivial

namespace Expr

def isNegation : Expr → Bool
  | .not _ _ => true
  | _ => false

mutual
/-- Whether all literals say their values again, and no negation stands where it would be read as
that of more: behind another one or in a comparison. -/
def IsPrintable : Expr → Prop
  | .literal value _ => value.IsPrintable
  | .property _ _ _ _ | .constant _ _ _ => True
  | .call _ arguments _ => AllPrintable arguments
  | .not operand _ => operand.IsPrintable ∧ operand.isNegation = false
  | .and left right | .or left right => left.IsPrintable ∧ right.IsPrintable
  | .relational _ left right _ =>
    (left.IsPrintable ∧ left.isNegation = false) ∧ right.IsPrintable ∧ right.isNegation = false

def AllPrintable : List Expr → Prop
  | [] => True
  | expr :: rest => expr.IsPrintable ∧ AllPrintable rest
end

mutual
def decidableIsPrintable : (expr : Expr) → Decidable expr.IsPrintable
  | .literal value _ => inferInstanceAs (Decidable value.IsPrintable)
  | .property _ _ _ _ | .constant _ _ _ => isTrue trivial
  | .call _ arguments _ => decidableAllPrintable arguments
  | .not operand _ =>
    have := decidableIsPrintable operand
    inferInstanceAs (Decidable (operand.IsPrintable ∧ operand.isNegation = false))
  | .and left right | .or left right =>
    have := decidableIsPrintable left
    have := decidableIsPrintable right
    inferInstanceAs (Decidable (left.IsPrintable ∧ right.IsPrintable))
  | .relational _ left right _ =>
    have := decidableIsPrintable left
    have := decidableIsPrintable right
    inferInstanceAs (Decidable ((left.IsPrintable ∧ left.isNegation = false) ∧
      right.IsPrintable ∧ right.isNegation = false))

def decidableAllPrintable : (exprs : List Expr) → Decidable (AllPrintable exprs)
  | [] => isTrue trivial
  | expr :: rest =>
    have := decidableIsPrintable expr
    have := decidableAllPrintable rest
    inferInstanceAs (Decidable (expr.IsPrintable ∧ AllPrintable rest))
end

instance : DecidablePred IsPrintable :=
  decidableIsPrintable

/-- A date that a text says is no printable literal, so that the text stays a text. -/
theorem withDate_of_isPrintable {expr : Expr} (printable : expr.withDate.IsPrintable) :
    expr.withDate = expr := by
  unfold withDate at printable ⊢
  split at printable
  case h_1 => cases printable
  case h_2 => rfl

end Expr

namespace Grammar

open Lexer (WrittenAs)

def Category.MeaningPrintable : (category : Category) → category.Meaning → Prop
  | .value, expr | .comparison, expr | .negation, expr | .conjunction, expr
  | .disjunction, expr => Expr.IsPrintable expr
  | .arguments, exprs => Expr.AllPrintable exprs

def IsNamed (kind : TokenKind) : Prop :=
  match kind with
  | .identifier path => Lexer.IsPath path.toList
  | .functionOpen name => Lexer.IsCallee name.toList
  | _ => True

structure Reads (scope : Scope) {category : Category} (phrase : Phrase category) (text : String)
    (meaning : category.Meaning) : Prop where
  means : ∃ again, phrase.Means scope again ∧ category.SameButPlaces again meaning
  written : WrittenAs text.toList (phrase.tokens.map (·.kind))

/-- That the text of an expression is read as the expression: as a negation, and unless it is one,
as a value. -/
structure Rereads (scope : Scope) (expr : Expr) : Prop where
  value : expr.isNegation = false → ∃ phrase : Phrase .value, Reads scope phrase expr.text expr
  negation : ∃ phrase : Phrase .negation, Reads scope phrase expr.text expr

def Category.Rereads (scope : Scope) : (category : Category) → category.Meaning → Prop
  | .value, expr | .comparison, expr | .negation, expr | .conjunction, expr
  | .disjunction, expr => Grammar.Rereads scope expr
  | .arguments, exprs => ∃ phrase : Phrase .arguments,
    Reads scope phrase (Text.joined ", " (Expr.texts exprs)) exprs

variable {scope : Scope}

theorem rereads_of_value {expr : Expr} (phrase : Phrase .value)
    (reads : Reads scope phrase expr.text expr) : Rereads scope expr where
  value _ := ⟨phrase, reads⟩
  negation := by
    rcases reads.means with ⟨again, means, same⟩
    exact ⟨.plain (.single phrase), ⟨again, .plain (.single means), same⟩, reads.written⟩

theorem reads_literal {kind : TokenKind} {value : Scalar} (denotes : literal? kind = some value)
    (printable : value.IsPrintable) (span : Span) :
    Reads scope (.literal kind value denotes .zero) (Expr.literalText value)
      (.literal value span) := by
  refine ⟨⟨_, .literal, rfl⟩, ?_⟩
  cases kind <;> cases denotes
  case null =>
    have isText : (Expr.literalText .null).toList = ['n', 'u', 'l', 'l'] := by decide
    rw [isText]
    exact .keyword .null rfl rfl
  case integer value =>
    have isText : (Expr.literalText (.int value)).toList = Number.signedDecimal value.toInt :=
      String.toList_ofList
    rw [isText]
    exact .number value
  case float value => cases printable
  case boolean value =>
    cases value with
    | true =>
      have isText : (Expr.literalText (.bool true)).toList = ['t', 'r', 'u', 'e'] := by decide
      rw [isText]
      exact .keyword .true rfl rfl
    | false =>
      have isText : (Expr.literalText (.bool false)).toList = ['f', 'a', 'l', 's', 'e'] := by decide
      rw [isText]
      exact .keyword .false rfl rfl
  case string value =>
    have isText : (Expr.literalText (.string value)).toList = '\'' :: value.toList ++ ['\''] := by
      change ("'" ++ value ++ "'").toList = _
      simp [String.toList_append]
    rw [isText]
    exact .quoted printable

theorem reads_name {path : String} {span : Span} {expr : Expr}
    (means : NameMeans scope path span expr) (isPath : Lexer.IsPath path.toList) :
    Reads scope (.name path .zero) expr.text expr := by
  rcases means.placed .zero with ⟨again, placed, same⟩
  have isText : expr.text = path := by
    cases means <;> rw [Expr.text]
  rw [isText]
  exact ⟨⟨again, .name placed, Eq.symm same⟩, .path isPath⟩

/-! ## Operations -/

theorem rereads_of_group {expr again : Expr} {inner : Phrase .disjunction}
    (means : inner.Means scope again) (same : again.SameButPlaces expr)
    (written : WrittenAs expr.text.toList
      (.leftParenthesis :: (inner.tokens.map (·.kind) ++ [.rightParenthesis]))) :
    Rereads scope expr :=
  rereads_of_value (.group .zero inner .zero)
    ⟨⟨again, .group means, same⟩, by simpa [Phrase.tokens] using written⟩

theorem rereads_not {operand : Expr} (reads : Rereads scope operand)
    (single : operand.isNegation = false) (isBool : operand.type = .bool) (span : Span) :
    Rereads scope (.not operand span) where
  value noNegation := by cases noNegation
  negation := by
    rcases reads.value single with ⟨phrase, ⟨again, means, same⟩, written⟩
    have same : again.SameButPlaces operand := same
    have means : (Phrase.not .zero (.single phrase)).Means scope
        (.not again (Span.zero.merge again.span)) :=
      .not (.single means) (same.type_eq ▸ isBool)
    refine ⟨_, ⟨_, means, congrArg (Expr.not · .zero) same⟩, ?_⟩
    have isText : (Expr.not operand span).text.toList = '!' :: operand.text.toList := by
      rw [Expr.text, String.toList_append]
      rfl
    rw [isText]
    exact written.not

theorem rereads_and {left right : Expr} (leftReads : Rereads scope left)
    (rightReads : Rereads scope right) (leftIsBool : left.type = .bool)
    (rightIsBool : right.type = .bool) : Rereads scope (.and left right) := by
  rcases leftReads.negation with ⟨first, ⟨leftAgain, leftMeans, leftSame⟩, leftWritten⟩
  rcases rightReads.negation with ⟨second, ⟨rightAgain, rightMeans, rightSame⟩, rightWritten⟩
  have leftSame : leftAgain.SameButPlaces left := leftSame
  have rightSame : rightAgain.SameButPlaces right := rightSame
  have means : (Phrase.and first .zero (.lastConjunct second)).Means scope
      (.and leftAgain rightAgain) :=
    .and leftMeans (.lastConjunct rightMeans) (leftSame.type_eq ▸ leftIsBool)
      (rightSame.type_eq ▸ rightIsBool)
  have written := leftWritten.connective rightWritten .and rfl (.inl rfl) rfl
  refine rereads_of_group (.lastDisjunct means) (congrArg₂ Expr.and leftSame rightSame) ?_
  simpa [Expr.text, Phrase.tokens] using written

theorem rereads_or {left right : Expr} (leftReads : Rereads scope left)
    (rightReads : Rereads scope right) (leftIsBool : left.type = .bool)
    (rightIsBool : right.type = .bool) : Rereads scope (.or left right) := by
  rcases leftReads.negation with ⟨first, ⟨leftAgain, leftMeans, leftSame⟩, leftWritten⟩
  rcases rightReads.negation with ⟨second, ⟨rightAgain, rightMeans, rightSame⟩, rightWritten⟩
  have leftSame : leftAgain.SameButPlaces left := leftSame
  have rightSame : rightAgain.SameButPlaces right := rightSame
  have means : (Phrase.or (.lastConjunct first) .zero
      (.lastDisjunct (.lastConjunct second))).Means scope (.or leftAgain rightAgain) :=
    .or (.lastConjunct leftMeans) (.lastDisjunct (.lastConjunct rightMeans))
      (leftSame.type_eq ▸ leftIsBool) (rightSame.type_eq ▸ rightIsBool)
  have written := leftWritten.connective rightWritten .or rfl (.inr rfl) rfl
  refine rereads_of_group means (congrArg₂ Expr.or leftSame rightSame) ?_
  simpa [Expr.text, Phrase.tokens] using written

theorem rereads_relational {left right : Expr} (leftReads : Rereads scope left)
    (rightReads : Rereads scope right) (leftSingle : left.isNegation = false)
    (rightSingle : right.isNegation = false) {symbol : Relation} {type : Ty}
    (consistent : Expr.operandType symbol left right = .ok type)
    (leftStays : type.isOf .datetime = true → left.withDate = left)
    (rightStays : type.isOf .datetime = true → right.withDate = right) :
    Rereads scope (.relational symbol left right type) := by
  rcases leftReads.value leftSingle with ⟨first, ⟨leftAgain, leftMeans, leftSame⟩, leftWritten⟩
  rcases rightReads.value rightSingle with
    ⟨second, ⟨rightAgain, rightMeans, rightSame⟩, rightWritten⟩
  have leftSame : leftAgain.SameButPlaces left := leftSame
  have rightSame : rightAgain.SameButPlaces right := rightSame
  have consistent := (Expr.operandType_eq_ok_iff leftSame rightSame).mpr consistent
  have means : ∃ again, (Phrase.relation first symbol .zero second).Means scope again ∧
      again.SameButPlaces (.relational symbol left right type) := by
    cases moments : type.isOf .datetime with
    | false =>
      exact ⟨_, .relation leftMeans rightMeans consistent moments,
        congrArg₂ (Expr.relational symbol · · type) leftSame rightSame⟩
    | true =>
      have leftSame := leftSame.withDate
      have rightSame := rightSame.withDate
      rw [leftStays moments] at leftSame
      rw [rightStays moments] at rightSame
      exact ⟨_, .relationOfMoments leftMeans rightMeans consistent moments (dated_withDate _)
          (dated_withDate _),
        congrArg₂ (Expr.relational symbol · · type) leftSame rightSame⟩
  rcases means with ⟨again, means, same⟩
  have written := leftWritten.relation rightWritten symbol
  refine rereads_of_group (.lastDisjunct (.lastConjunct (.plain means))) same ?_
  simpa [Expr.text, Phrase.tokens] using written

/-! ## Calls -/

theorem reads_emptyCall {callee : String} {function : Function}
    (resolved : scope.library.resolve callee [] = some function)
    (isCallee : Lexer.IsCallee callee.toList) (span : Span) :
    Reads scope (.emptyCall callee .zero .zero) (Expr.text (.call function [] span))
      (.call function [] span) := by
  refine ⟨⟨_, .emptyCall resolved, rfl⟩, ?_⟩
  have named : function.name = callee := Library.name_of_resolve resolved
  have written : WrittenAs (callee.toList ++ '(' :: ([] ++ [')']))
      (.functionOpen callee :: ([] ++ [.rightParenthesis])) :=
    .call isCallee fun closed => closed
  simpa [Expr.text, Expr.texts, Text.joined, Phrase.tokens, named] using written

theorem reads_call {callee : String} {function : Function} {exprs : List Expr}
    {arguments : Phrase .arguments}
    (resolved : scope.library.resolve callee (exprs.map (·.type)) = some function)
    (isCallee : Lexer.IsCallee callee.toList)
    (reads : Reads scope arguments (Text.joined ", " (Expr.texts exprs)) exprs) (span : Span) :
    Reads scope (.call callee .zero arguments .zero) (Expr.text (.call function exprs span))
      (.call function exprs span) := by
  rcases reads with ⟨⟨again, means, same⟩, written⟩
  have same : Expr.unplacedAll again = Expr.unplacedAll exprs := same
  have named : function.name = callee := Library.name_of_resolve resolved
  have sameTypes : again.map (·.type) = exprs.map (·.type) := by
    rw [← Expr.types_unplacedAll, same, Expr.types_unplacedAll]
  refine ⟨⟨_, .call means (sameTypes ▸ resolved), congrArg (Expr.call function · .zero) same⟩, ?_⟩
  have written := WrittenAs.call isCallee fun {rest others} closed =>
    written.cuts (.parenthesis rest) closed
  simpa [Expr.text, Phrase.tokens, named] using written

theorem reads_lastArgument {expr : Expr} (reads : Rereads scope expr) :
    ∃ phrase : Phrase .arguments,
      Reads scope phrase (Text.joined ", " (Expr.texts [expr])) [expr] := by
  rcases reads.negation with ⟨phrase, ⟨again, means, same⟩, written⟩
  have same : again.SameButPlaces expr := same
  exact ⟨.lastArgument (.lastDisjunct (.lastConjunct phrase)),
    ⟨_, .lastArgument (.lastDisjunct (.lastConjunct means)), congrArg ([·]) same⟩, written⟩

theorem reads_argument {first : Expr} {exprs : List Expr} {rest : Phrase .arguments}
    (firstReads : Rereads scope first)
    (restReads : Reads scope rest (Text.joined ", " (Expr.texts exprs)) exprs) :
    ∃ phrase : Phrase .arguments,
      Reads scope phrase (Text.joined ", " (Expr.texts (first :: exprs))) (first :: exprs) := by
  rcases firstReads.negation with ⟨phrase, ⟨again, means, same⟩, written⟩
  rcases restReads with ⟨⟨others, restMeans, restSame⟩, restWritten⟩
  have same : again.SameButPlaces first := same
  have restSame : Expr.unplacedAll others = Expr.unplacedAll exprs := restSame
  refine ⟨.argument (.lastDisjunct (.lastConjunct phrase)) .zero rest,
    ⟨_, .argument (.lastDisjunct (.lastConjunct means)) restMeans,
      congrArg₂ List.cons same restSame⟩, ?_⟩
  have whole := written.argument restWritten
  cases exprs with
  | nil =>
    rcases restWritten.begins with ⟨char, others, equal, _⟩
    cases equal
  | cons next exprs => simpa [Expr.texts, Text.joined, Phrase.tokens] using whole

/-! ## Whole conditions -/

theorem Phrase.Means.rereads {category : Category} {phrase : Phrase category}
    {meaning : category.Meaning} (means : phrase.Means scope meaning)
    (named : ∀ token ∈ phrase.tokens, IsNamed token.kind)
    (printable : category.MeaningPrintable meaning) : category.Rereads scope meaning := by
  induction means with
  | @literal kind value denotes span =>
    exact rereads_of_value _ (reads_literal denotes printable span)
  | @name path span expr means =>
    exact rereads_of_value _ (reads_name means (named _ (List.mem_singleton_self _)))
  | emptyCall resolved =>
    exact rereads_of_value _ (reads_emptyCall resolved (named _ (List.mem_cons_self ..)) _)
  | call _ resolved induction =>
    simp only [Phrase.tokens, List.forall_mem_cons, List.forall_mem_append] at named
    rcases induction named.2.1 printable with ⟨arguments, reads⟩
    exact rereads_of_value _ (reads_call resolved named.1 reads _)
  | group _ induction =>
    simp only [Phrase.tokens, List.forall_mem_cons, List.forall_mem_append] at named
    exact induction named.2.1 printable
  | single _ induction => exact induction named printable
  | relation _ _ consistent noMoments firstInduction secondInduction =>
    simp only [Phrase.tokens, List.forall_mem_cons, List.forall_mem_append] at named
    rcases printable with ⟨⟨leftPrintable, leftSingle⟩, rightPrintable, rightSingle⟩
    exact rereads_relational (firstInduction named.1 leftPrintable)
      (secondInduction named.2.2 rightPrintable) leftSingle rightSingle consistent
      (by simp [noMoments]) (by simp [noMoments])
  | relationOfMoments _ _ consistent moments leftIsDated rightIsDated firstInduction
      secondInduction =>
    simp only [Phrase.tokens, List.forall_mem_cons, List.forall_mem_append] at named
    rcases printable with ⟨⟨leftPrintable, leftSingle⟩, rightPrintable, rightSingle⟩
    rcases leftIsDated.eq_withDate with rfl
    rcases rightIsDated.eq_withDate with rfl
    -- A side that became a date is not printable, so both sides are as they were read.
    have leftStays := Expr.withDate_of_isPrintable leftPrintable
    have rightStays := Expr.withDate_of_isPrintable rightPrintable
    rw [leftStays] at leftPrintable leftSingle ⊢
    rw [rightStays] at rightPrintable rightSingle ⊢
    exact rereads_relational (firstInduction named.1 leftPrintable)
      (secondInduction named.2.2 rightPrintable) leftSingle rightSingle consistent
      (fun _ => leftStays) (fun _ => rightStays)
  | plain _ induction => exact induction named printable
  | not _ isBool induction =>
    simp only [Phrase.tokens, List.forall_mem_cons] at named
    exact rereads_not (induction named.2 printable.1) printable.2 isBool _
  | lastConjunct _ induction => exact induction named printable
  | and _ _ leftIsBool rightIsBool firstInduction secondInduction =>
    simp only [Phrase.tokens, List.forall_mem_cons, List.forall_mem_append] at named
    exact rereads_and (firstInduction named.1 printable.1)
      (secondInduction named.2.2 printable.2) leftIsBool rightIsBool
  | lastDisjunct _ induction => exact induction named printable
  | or _ _ leftIsBool rightIsBool firstInduction secondInduction =>
    simp only [Phrase.tokens, List.forall_mem_cons, List.forall_mem_append] at named
    exact rereads_or (firstInduction named.1 printable.1)
      (secondInduction named.2.2 printable.2) leftIsBool rightIsBool
  | lastArgument _ induction => exact reads_lastArgument (induction named printable.1)
  | argument _ _ firstInduction restInduction =>
    simp only [Phrase.tokens, List.forall_mem_cons, List.forall_mem_append] at named
    rcases restInduction named.2.2 printable.2 with ⟨rest, reads⟩
    exact reads_argument (firstInduction named.1 printable.1) reads

/-! ## Names of tokens -/

theorem isNamed_of_next? {first rest : List Char} {type : TokenType} {kind : TokenKind}
    (next : Lexer.standard.next? (first ++ rest) = some (first.length, type))
    (reads : Lexer.tokenKind type first 0 = .ok kind) : IsNamed kind := by
  cases type with
  | identifier =>
    cases reads
    rw [IsNamed, String.toList_ofList]
    exact Lexer.isPath_of_next? next
  | functionOpen =>
    cases reads
    rw [IsNamed, String.toList_ofList]
    exact Lexer.isCallee_of_next? next
  | relation | integer | float =>
    simp only [Lexer.tokenKind] at reads
    split at reads <;> cases reads
    trivial
  | _ =>
    cases reads
    trivial

theorem isNamed_of_cuts {text : List Char} {kinds : List TokenKind}
    (cuts : Lexer.standard.Cuts text kinds) : ∀ kind ∈ kinds, IsNamed kind := by
  induction cuts with
  | nothing => exact nofun
  | blank _ _ _ induction => exact induction
  | @token text count type kind kinds _ next _ reads _ induction =>
    refine List.forall_mem_cons.mpr ⟨?_, induction⟩
    have length : (text.take count).length = count :=
      List.length_take_of_le (Lexer.count_of_next? next).2
    have next : Lexer.standard.next? (text.take count ++ text.drop count) =
        some ((text.take count).length, type) := by
      rw [List.take_append_drop, length, next]
    exact isNamed_of_next? next reads

theorem mem_of_mem_ofTokens {tokens : List Token} {token : Token}
    (member : token ∈ (TokenStream.ofTokens tokens).tokens) : token ∈ tokens := by
  unfold TokenStream.ofTokens at member
  split at member
  case h_1 => exact (List.takeWhile_prefix _).subset member
  case h_2 => exact member

/-! ## Depth -/

theorem Phrase.Means.withDepth {category : Category} {phrase : Phrase category}
    {meaning : category.Meaning} (means : phrase.Means scope meaning) (depth : Nat) :
    phrase.Means { scope with maxDepth := depth } meaning :=
  means.transfer (fun _ _ _ named => named.transfer rfl fun _ found => found) means.keepsCalls

end Grammar

/-- A condition that is read from a text and is printable is read again from the text that shows how
it is grouped, wherever conditions may be nested deeply enough. It is the same condition but for the
places. -/
theorem Expr.exists_ofTokens_text {scope : Scope} {source : String} {tokens : List Token}
    {expr : Expr} (tokenized : Lexer.standard.tokenize source false = .ok tokens)
    (read : Expr.ofTokens scope tokens = .ok expr) (printable : expr.IsPrintable) :
    ∃ enough, ∀ depth, enough ≤ depth → ∃ printed again,
      Lexer.standard.tokenize expr.text false = .ok printed ∧
      Expr.ofTokens { scope with maxDepth := depth } printed = .ok again ∧
      again.SameButPlaces expr := by
  rcases Lexer.cuts_of_tokensFrom (Nat.le_refl _) tokenized with ⟨inner, stop, rfl, cuts⟩
  rcases Grammar.ofTokens_eq_ok_iff.mp read with ⟨phrase, spelled, _, means, isBool⟩
  have named : ∀ token ∈ phrase.tokens, Grammar.IsNamed token.kind := by
    intro token member
    have member := Grammar.mem_of_mem_ofTokens (spelled ▸ member)
    rcases List.mem_append.mp member with inside | isEnd
    · exact Grammar.isNamed_of_cuts cuts _ (List.mem_map_of_mem inside)
    · rw [List.mem_singleton.mp isEnd]
      trivial
  have rereads : Grammar.Rereads scope expr := means.rereads named printable
  rcases rereads.negation with ⟨negation, ⟨meaning, again, same⟩, written⟩
  have same : meaning.SameButPlaces expr := same
  refine ⟨(Grammar.Phrase.lastDisjunct (.lastConjunct negation)).depth, fun depth deep => ?_⟩
  have cuts := written.cuts .nothing .nothing
  rw [List.append_nil, List.append_nil] at cuts
  rcases cuts.tokenize with ⟨printed, stop, cut, kinds⟩
  have means : (Grammar.Phrase.lastDisjunct (.lastConjunct negation)).Means
      { scope with maxDepth := depth } meaning :=
    .lastDisjunct (.lastConjunct (again.withDepth depth))
  rcases Grammar.exists_ofTokens_of_means kinds stop means deep (same.type_eq ▸ isBool) with
    ⟨result, reread, samePlaces⟩
  exact ⟨_, result, cut, reread, Eq.trans samePlaces same⟩

theorem Expr.exists_ofTokens_text_people :
    ∃ tokens expr,
      Lexer.standard.tokenize "!(Age >= -5 && Home.City == \"Rome\") || Limit ( ) < Age" false =
        .ok tokens ∧
      Expr.ofTokens .people tokens = .ok expr ∧ expr.IsPrintable ∧
      expr.text = "(!((Age >= -5) && (Home.City == 'Rome')) || (Limit() < Age))" ∧
      ∃ enough, ∀ depth, enough ≤ depth → ∃ printed again,
        Lexer.standard.tokenize expr.text false = .ok printed ∧
        Expr.ofTokens { Scope.people with maxDepth := depth } printed = .ok again ∧
        again.SameButPlaces expr := by
  have accepts : (Lexer.standard.tokenize
      "!(Age >= -5 && Home.City == \"Rome\") || Limit ( ) < Age" false).toOption.any
      (fun tokens => (Expr.ofTokens .people tokens).toOption.any fun expr =>
        decide (expr.IsPrintable ∧
          expr.text = "(!((Age >= -5) && (Home.City == 'Rome')) || (Limit() < Age))")) = true := by
    decide +kernel
  rcases exists_eq_ok_of_any accepts with ⟨tokens, tokenized, reads⟩
  rcases exists_eq_ok_of_any reads with ⟨expr, read, holds⟩
  have holds := of_decide_eq_true holds
  exact ⟨tokens, expr, tokenized, read, holds.1, holds.2,
    exists_ofTokens_text tokenized read holds.1⟩

end Proviso
