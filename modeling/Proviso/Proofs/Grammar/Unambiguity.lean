import Proviso.Proofs.Grammar.Phrase

/-!
The grammar is unambiguous: tokens are spelled by at most one phrase of a category. What makes
the induction go through is to let tokens follow the phrase, of which the first must not go on
with a phrase of the category.
-/

namespace Proviso.Grammar

@[simp] def Category.rank : Category → Nat
  | .value => 0
  | .comparison => 1
  | .negation => 2
  | .conjunction => 3
  | .disjunction => 4
  | .arguments => 5

/-- Whether a token behind a phrase can go on with it. -/
@[simp] def Category.continues (category : Category) : TokenKind → Bool
  | .relation _ => comparison.rank ≤ category.rank
  | .and => conjunction.rank ≤ category.rank
  | .or => disjunction.rank ≤ category.rank
  | .comma => arguments.rank ≤ category.rank
  | _ => false

def Category.EndsBefore (category : Category) (rest : List Token) : Prop :=
  ∀ token ∈ rest.head?, category.continues token.kind = false

namespace Category

@[simp] theorem endsBefore_nil (category : Category) : category.EndsBefore [] :=
  nofun

@[simp] theorem endsBefore_cons {category : Category} {token : Token} {rest : List Token} :
    category.EndsBefore (token :: rest) ↔ category.continues token.kind = false := by
  simp [EndsBefore]

theorem continues_of_rank_le {category other : Category} (tighter : other.rank ≤ category.rank)
    {kind : TokenKind} (goesOn : other.continues kind = true) : category.continues kind = true := by
  unfold continues at goesOn ⊢
  split at goesOn
  case h_5 => cases goesOn
  all_goals
    rw [decide_eq_true_eq] at goesOn ⊢
    exact Nat.le_trans goesOn tighter

@[simp] theorem continues_value (kind : TokenKind) : value.continues kind = false := by
  cases kind <;> rfl

@[simp] theorem endsBefore_value (rest : List Token) : value.EndsBefore rest :=
  fun token _ => continues_value token.kind

theorem EndsBefore.tighten {category other : Category} {rest : List Token}
    (ends : category.EndsBefore rest) (tighter : other.rank ≤ category.rank) :
    other.EndsBefore rest := by
  intro token member
  rw [Bool.eq_false_iff]
  intro goesOn
  have goesOn := continues_of_rank_le tighter goesOn
  rw [ends token member] at goesOn
  cases goesOn

end Category

/-! ## Phrases in front of tokens -/

namespace Phrase

section

variable (place : Span) (rest : List Token)

theorem tokens_call_append (callee : String) (start : Span) (arguments : Phrase .arguments) :
    (call callee start arguments place).tokens ++ rest =
      ⟨.functionOpen callee, start⟩ :: (arguments.tokens ++ ⟨.rightParenthesis, place⟩ :: rest) :=
  congrArg _ (List.append_assoc ..)

theorem tokens_group_append (start : Span) (inner : Phrase .disjunction) :
    (group start inner place).tokens ++ rest =
      ⟨.leftParenthesis, start⟩ :: (inner.tokens ++ ⟨.rightParenthesis, place⟩ :: rest) :=
  congrArg _ (List.append_assoc ..)

theorem tokens_relation_append (left : Phrase .value) (symbol : Relation)
    (right : Phrase .value) :
    (relation left symbol place right).tokens ++ rest =
      left.tokens ++ ⟨.relation symbol, place⟩ :: (right.tokens ++ rest) :=
  List.append_assoc ..

theorem tokens_and_append (left : Phrase .negation) (right : Phrase .conjunction) :
    (and left place right).tokens ++ rest =
      left.tokens ++ ⟨.and, place⟩ :: (right.tokens ++ rest) :=
  List.append_assoc ..

theorem tokens_or_append (left : Phrase .conjunction) (right : Phrase .disjunction) :
    (or left place right).tokens ++ rest =
      left.tokens ++ ⟨.or, place⟩ :: (right.tokens ++ rest) :=
  List.append_assoc ..

theorem tokens_argument_append (first : Phrase .disjunction) (others : Phrase .arguments) :
    (argument first place others).tokens ++ rest =
      first.tokens ++ ⟨.comma, place⟩ :: (others.tokens ++ rest) :=
  List.append_assoc ..

end

end Phrase

/-! ## First tokens -/

def startsValue : TokenKind → Bool
  | .identifier _ => true
  | .functionOpen _ => true
  | .leftParenthesis => true
  | kind => (literal? kind).isSome

def Category.isNegatable : Category → Bool
  | .value => false
  | .comparison => false
  | _ => true

def Category.Starts (category : Category) (kind : TokenKind) : Prop :=
  startsValue kind = true ∨ category.isNegatable = true ∧ kind = .not

theorem startsValue_of_literal? {kind : TokenKind} {value : Scalar}
    (denotes : literal? kind = some value) : startsValue kind = true := by
  cases kind <;> simp_all [literal?, startsValue]

theorem Category.Starts.loosen {category : Category} {kind : TokenKind}
    (starts : comparison.Starts kind) : category.Starts kind :=
  .inl (starts.resolve_right (by simp [isNegatable]))

theorem Category.Starts.ne_rightParenthesis {category : Category} {kind : TokenKind}
    (starts : category.Starts kind) : kind ≠ .rightParenthesis := by
  rintro rfl
  simp [Starts, startsValue, literal?] at starts

namespace Phrase

theorem tokens_eq_cons {category : Category} (phrase : Phrase category) :
    ∃ token rest, phrase.tokens = token :: rest ∧ category.Starts token.kind := by
  induction phrase with
  | literal kind value denotes span => exact ⟨_, [], rfl, .inl (startsValue_of_literal? denotes)⟩
  | name => exact ⟨_, [], rfl, .inl rfl⟩
  | emptyCall => exact ⟨_, _, rfl, .inl rfl⟩
  | call => exact ⟨_, _, rfl, .inl rfl⟩
  | group => exact ⟨_, _, rfl, .inl rfl⟩
  | single value induction => exact induction
  | relation left symbol place right induction _ =>
    rcases induction with ⟨token, rest, spelled, starts⟩
    exact ⟨token, _, congrArg (· ++ _) spelled, starts.loosen⟩
  | plain operand induction =>
    rcases induction with ⟨token, rest, spelled, starts⟩
    exact ⟨token, rest, spelled, starts.loosen⟩
  | not place operand => exact ⟨_, _, rfl, .inr ⟨rfl, rfl⟩⟩
  | lastConjunct operand induction => exact induction
  | lastDisjunct operand induction => exact induction
  | lastArgument last induction => exact induction
  | and left place right induction _ =>
    rcases induction with ⟨token, rest, spelled, starts⟩
    exact ⟨token, _, congrArg (· ++ _) spelled, starts⟩
  | or left place right induction _ =>
    rcases induction with ⟨token, rest, spelled, starts⟩
    exact ⟨token, _, congrArg (· ++ _) spelled, starts⟩
  | argument first place rest induction _ =>
    rcases induction with ⟨token, rest, spelled, starts⟩
    exact ⟨token, _, congrArg (· ++ _) spelled, starts⟩

theorem tokens_append_ne_close {category : Category} (phrase : Phrase category) {close : Span}
    {rest others : List Token} :
    phrase.tokens ++ rest ≠ ⟨.rightParenthesis, close⟩ :: others := by
  rcases phrase.tokens_eq_cons with ⟨token, rest, spelled, starts⟩
  intro equal
  simp only [spelled, List.cons_append, List.cons.injEq] at equal
  exact starts.ne_rightParenthesis (by rw [equal.1])

theorem tokens_append_ne_not (phrase : Phrase .comparison) {place : Span}
    {rest others : List Token} : phrase.tokens ++ rest ≠ ⟨.not, place⟩ :: others := by
  rcases phrase.tokens_eq_cons with ⟨token, rest, spelled, starts⟩
  intro equal
  simp only [spelled, List.cons_append, List.cons.injEq] at equal
  rw [equal.1] at starts
  simp [Category.Starts, Category.isNegatable, startsValue, literal?] at starts

/-! ## Unambiguity -/

theorem eq_literal_of_tokens_append (phrase : Phrase .value) {kind : TokenKind} {value : Scalar}
    (denotes : literal? kind = some value) {span : Span} {rest others : List Token}
    (equal : phrase.tokens ++ rest = ⟨kind, span⟩ :: others) :
    phrase = .literal kind value denotes span ∧ rest = others := by
  cases phrase with
  | literal kind' value' denotes' span' =>
    cases equal
    have sameValue : value' = value := Option.some.inj (denotes'.symm.trans denotes)
    subst sameValue
    exact ⟨rfl, rfl⟩
  | _ =>
    cases equal
    cases denotes

/-- Whether the tokens of a phrase tell it from the other phrases of its category, whatever tokens
follow that do not go on with either. -/
def IsDetermined {category : Category} (phrase : Phrase category) : Prop :=
  ∀ ⦃other : Phrase category⦄ ⦃rest others : List Token⦄, category.EndsBefore rest →
    category.EndsBefore others → phrase.tokens ++ rest = other.tokens ++ others →
      phrase = other ∧ rest = others

namespace IsDetermined

/-! ### Values -/

theorem literal {kind : TokenKind} {value : Scalar} (denotes : literal? kind = some value)
    (span : Span) : (Phrase.literal kind value denotes span).IsDetermined := by
  intro other rest others _ _ equal
  have same := other.eq_literal_of_tokens_append denotes equal.symm
  exact ⟨same.1.symm, same.2.symm⟩

theorem name (path : String) (span : Span) : (Phrase.name path span).IsDetermined := by
  intro other rest others _ _ equal
  cases other with
  | literal kind value denotes => exact nomatch (eq_literal_of_tokens_append _ denotes equal).1
  | name path span =>
    cases equal
    exact ⟨rfl, rfl⟩
  | _ => cases equal

theorem emptyCall (callee : String) (start close : Span) :
    (Phrase.emptyCall callee start close).IsDetermined := by
  intro other rest others _ _ equal
  cases other with
  | literal kind value denotes => exact nomatch (eq_literal_of_tokens_append _ denotes equal).1
  | emptyCall callee start close =>
    cases equal
    exact ⟨rfl, rfl⟩
  | call callee start arguments close =>
    rw [tokens_call_append] at equal
    exact absurd (List.cons.inj equal).2.symm arguments.tokens_append_ne_close
  | _ => cases equal

theorem call {arguments : Phrase .arguments} (determined : arguments.IsDetermined)
    (callee : String) (start close : Span) :
    (Phrase.call callee start arguments close).IsDetermined := by
  intro other rest others _ _ equal
  cases other with
  | literal kind value denotes => exact nomatch (eq_literal_of_tokens_append _ denotes equal).1
  | emptyCall callee start close =>
    rw [tokens_call_append] at equal
    exact absurd (List.cons.inj equal).2 arguments.tokens_append_ne_close
  | call callee start arguments close =>
    rw [tokens_call_append, tokens_call_append] at equal
    rcases List.cons.inj equal with ⟨sameStart, sameBehind⟩
    cases sameStart
    rcases determined (by simp) (by simp) sameBehind with ⟨rfl, closed⟩
    cases closed
    exact ⟨rfl, rfl⟩
  | _ => cases equal

theorem group {inner : Phrase .disjunction} (determined : inner.IsDetermined)
    (start close : Span) : (Phrase.group start inner close).IsDetermined := by
  intro other rest others _ _ equal
  cases other with
  | literal kind value denotes => exact nomatch (eq_literal_of_tokens_append _ denotes equal).1
  | group start inner close =>
    rw [tokens_group_append, tokens_group_append] at equal
    rcases List.cons.inj equal with ⟨sameStart, sameBehind⟩
    cases sameStart
    rcases determined (by simp) (by simp) sameBehind with ⟨rfl, closed⟩
    cases closed
    exact ⟨rfl, rfl⟩
  | _ => cases equal

/-! ### Phrases in front of a joint -/

section Joint

variable {category tighter : Category} {phrase left : Phrase tighter} {kind : TokenKind}
  {place : Span} {rest behind : List Token}

/-- A phrase behind which a looser one ends is not followed by a token that goes on with that. -/
theorem ne_joint (determined : phrase.IsDetermined) (isTighter : tighter.rank ≤ category.rank)
    (stops : tighter.continues kind = false) (goesOn : category.continues kind = true)
    (ends : category.EndsBefore rest) :
    phrase.tokens ++ rest ≠ left.tokens ++ ⟨kind, place⟩ :: behind := by
  intro equal
  have same := determined (ends.tighten isTighter) (Category.endsBefore_cons.mpr stops) equal
  rw [same.2, Category.endsBefore_cons, goesOn] at ends
  cases ends

theorem joint_ne (determined : left.IsDetermined) (isTighter : tighter.rank ≤ category.rank)
    (stops : tighter.continues kind = false) (goesOn : category.continues kind = true)
    (ends : category.EndsBefore rest) :
    left.tokens ++ ⟨kind, place⟩ :: behind ≠ phrase.tokens ++ rest := by
  intro equal
  have same := determined (Category.endsBefore_cons.mpr stops) (ends.tighten isTighter) equal
  rw [← same.2, Category.endsBefore_cons, goesOn] at ends
  cases ends

theorem joint {kind' : TokenKind} {place' : Span} {behind' : List Token}
    (determined : left.IsDetermined) (stops : tighter.continues kind = false)
    (stops' : tighter.continues kind' = false)
    (equal : left.tokens ++ ⟨kind, place⟩ :: behind =
      phrase.tokens ++ ⟨kind', place'⟩ :: behind') :
    left = phrase ∧ kind = kind' ∧ place = place' ∧ behind = behind' := by
  rcases determined (Category.endsBefore_cons.mpr stops) (Category.endsBefore_cons.mpr stops')
    equal with ⟨same, sameBehind⟩
  rw [List.cons.injEq, Token.mk.injEq] at sameBehind
  exact ⟨same, sameBehind.1.1, sameBehind.1.2, sameBehind.2⟩

end Joint

/-! ### Looser phrases -/

theorem single {value : Phrase .value} (determined : value.IsDetermined) :
    (Phrase.single value).IsDetermined := by
  intro other rest others firstEnds _ equal
  cases other with
  | single value =>
    rcases determined (by simp) (by simp) equal with ⟨rfl, rfl⟩
    exact ⟨rfl, rfl⟩
  | relation left symbol place right =>
    rw [tokens_relation_append] at equal
    exact absurd equal (determined.ne_joint (by decide) rfl rfl firstEnds)

theorem relation {left right : Phrase .value} (leftDetermined : left.IsDetermined)
    (rightDetermined : right.IsDetermined) (symbol : Relation) (place : Span) :
    (Phrase.relation left symbol place right).IsDetermined := by
  intro other rest others _ secondEnds equal
  cases other with
  | single value =>
    rw [tokens_relation_append] at equal
    exact absurd equal (leftDetermined.joint_ne (by decide) rfl rfl secondEnds)
  | relation left symbol place right =>
    rw [tokens_relation_append, tokens_relation_append] at equal
    rcases leftDetermined.joint rfl rfl equal with ⟨rfl, sameSymbol, rfl, sameBehind⟩
    rcases rightDetermined (by simp) (by simp) sameBehind with ⟨rfl, rfl⟩
    cases sameSymbol
    exact ⟨rfl, rfl⟩

theorem plain {operand : Phrase .comparison} (determined : operand.IsDetermined) :
    (Phrase.plain operand).IsDetermined := by
  intro other rest others firstEnds secondEnds equal
  cases other with
  | plain operand =>
    rcases determined (firstEnds.tighten (by decide)) (secondEnds.tighten (by decide)) equal with
      ⟨rfl, rfl⟩
    exact ⟨rfl, rfl⟩
  | not place operand' => exact absurd equal operand.tokens_append_ne_not

theorem not {operand : Phrase .comparison} (determined : operand.IsDetermined) (place : Span) :
    (Phrase.not place operand).IsDetermined := by
  intro other rest others firstEnds secondEnds equal
  cases other with
  | plain operand' => exact absurd equal.symm operand'.tokens_append_ne_not
  | not place operand =>
    rcases List.cons.inj equal with ⟨sameStart, sameBehind⟩
    cases sameStart
    rcases determined (firstEnds.tighten (by decide)) (secondEnds.tighten (by decide))
      sameBehind with ⟨rfl, rfl⟩
    exact ⟨rfl, rfl⟩

theorem lastConjunct {operand : Phrase .negation} (determined : operand.IsDetermined) :
    (Phrase.lastConjunct operand).IsDetermined := by
  intro other rest others firstEnds secondEnds equal
  cases other with
  | lastConjunct operand =>
    rcases determined (firstEnds.tighten (by decide)) (secondEnds.tighten (by decide)) equal with
      ⟨rfl, rfl⟩
    exact ⟨rfl, rfl⟩
  | and left place right =>
    rw [tokens_and_append] at equal
    exact absurd equal (determined.ne_joint (by decide) rfl rfl firstEnds)

theorem and {left : Phrase .negation} {right : Phrase .conjunction}
    (leftDetermined : left.IsDetermined) (rightDetermined : right.IsDetermined) (place : Span) :
    (Phrase.and left place right).IsDetermined := by
  intro other rest others firstEnds secondEnds equal
  cases other with
  | lastConjunct operand =>
    rw [tokens_and_append] at equal
    exact absurd equal (leftDetermined.joint_ne (by decide) rfl rfl secondEnds)
  | and left place right =>
    rw [tokens_and_append, tokens_and_append] at equal
    rcases leftDetermined.joint rfl rfl equal with ⟨rfl, -, rfl, sameBehind⟩
    rcases rightDetermined firstEnds secondEnds sameBehind with ⟨rfl, rfl⟩
    exact ⟨rfl, rfl⟩

theorem lastDisjunct {operand : Phrase .conjunction} (determined : operand.IsDetermined) :
    (Phrase.lastDisjunct operand).IsDetermined := by
  intro other rest others firstEnds secondEnds equal
  cases other with
  | lastDisjunct operand =>
    rcases determined (firstEnds.tighten (by decide)) (secondEnds.tighten (by decide)) equal with
      ⟨rfl, rfl⟩
    exact ⟨rfl, rfl⟩
  | or left place right =>
    rw [tokens_or_append] at equal
    exact absurd equal (determined.ne_joint (by decide) rfl rfl firstEnds)

theorem or {left : Phrase .conjunction} {right : Phrase .disjunction}
    (leftDetermined : left.IsDetermined) (rightDetermined : right.IsDetermined) (place : Span) :
    (Phrase.or left place right).IsDetermined := by
  intro other rest others firstEnds secondEnds equal
  cases other with
  | lastDisjunct operand =>
    rw [tokens_or_append] at equal
    exact absurd equal (leftDetermined.joint_ne (by decide) rfl rfl secondEnds)
  | or left place right =>
    rw [tokens_or_append, tokens_or_append] at equal
    rcases leftDetermined.joint rfl rfl equal with ⟨rfl, -, rfl, sameBehind⟩
    rcases rightDetermined firstEnds secondEnds sameBehind with ⟨rfl, rfl⟩
    exact ⟨rfl, rfl⟩

theorem lastArgument {last : Phrase .disjunction} (determined : last.IsDetermined) :
    (Phrase.lastArgument last).IsDetermined := by
  intro other rest others firstEnds secondEnds equal
  cases other with
  | lastArgument last =>
    rcases determined (firstEnds.tighten (by decide)) (secondEnds.tighten (by decide)) equal with
      ⟨rfl, rfl⟩
    exact ⟨rfl, rfl⟩
  | argument first place rest =>
    rw [tokens_argument_append] at equal
    exact absurd equal (determined.ne_joint (by decide) rfl rfl firstEnds)

theorem argument {first : Phrase .disjunction} {rest : Phrase .arguments}
    (firstDetermined : first.IsDetermined) (restDetermined : rest.IsDetermined) (place : Span) :
    (Phrase.argument first place rest).IsDetermined := by
  intro other after others firstEnds secondEnds equal
  cases other with
  | lastArgument last =>
    rw [tokens_argument_append] at equal
    exact absurd equal (firstDetermined.joint_ne (by decide) rfl rfl secondEnds)
  | argument first place rest =>
    rw [tokens_argument_append, tokens_argument_append] at equal
    rcases firstDetermined.joint rfl rfl equal with ⟨rfl, -, rfl, sameBehind⟩
    rcases restDetermined firstEnds secondEnds sameBehind with ⟨rfl, rfl⟩
    exact ⟨rfl, rfl⟩

end IsDetermined

theorem isDetermined {category : Category} (phrase : Phrase category) : phrase.IsDetermined := by
  induction phrase with
  | literal kind value denotes span => exact .literal denotes span
  | name path span => exact .name path span
  | emptyCall callee start close => exact .emptyCall callee start close
  | call callee start arguments close induction => exact induction.call callee start close
  | group start inner close induction => exact induction.group start close
  | single value induction => exact induction.single
  | relation left symbol place right leftInduction rightInduction =>
    exact leftInduction.relation rightInduction symbol place
  | plain operand induction => exact induction.plain
  | not place operand induction => exact induction.not place
  | lastConjunct operand induction => exact induction.lastConjunct
  | and left place right leftInduction rightInduction =>
    exact leftInduction.and rightInduction place
  | lastDisjunct operand induction => exact induction.lastDisjunct
  | or left place right leftInduction rightInduction =>
    exact leftInduction.or rightInduction place
  | lastArgument last induction => exact induction.lastArgument
  | argument first place rest firstInduction restInduction =>
    exact firstInduction.argument restInduction place

theorem tokens_injective {category : Category} :
    Function.Injective (tokens : Phrase category → List Token) := by
  intro first second equal
  exact (first.isDetermined category.endsBefore_nil category.endsBefore_nil (by rw [equal])).1

end Phrase

end Proviso.Grammar
