import Proviso.Proofs.Compiler.Reached
import Proviso.Proofs.Grammar.Converse
import Proviso.Proofs.Token.Words

/-!
Conditions made of constants and operators alone. Their words can be put in postfix order with a
stack of operators and judged with a stack of booleans, without any grammar; both stacks are left
as they were found by the words of a phrase, but for its value. So this comes to the same as
compiling the condition and evaluating it.
-/

namespace Proviso

open Outcome

inductive Word where
  | constant (value : Bool)
  | not
  | and
  | or
  | opening
  | closing
  deriving DecidableEq

namespace Word

def text : Word → List Char
  | .constant true => ['t', 'r', 'u', 'e']
  | .constant false => ['f', 'a', 'l', 's', 'e']
  | .not => ['!']
  | .and => ['&', '&']
  | .or => ['|', '|']
  | .opening => ['(']
  | .closing => [')']

def isConstant : Word → Bool
  | .constant _ => true
  | _ => false

/-- Whether a text is made of words and of white space. What is a constant is a whole word: the
text `truefalse` is a name, and not made of two constants. -/
inductive Spells : List Char → List Word → Prop where
  | nothing : Spells [] []
  | blank {char : Char} {text : List Char} {words : List Word}
      (isBlank : Text.isBlank char = true) (rest : Spells text words) :
      Spells (char :: text) words
  | word {word : Word} {text : List Char} {words : List Word}
      (ends : word.isConstant = true → Assertion.isWordAt false text.head? = false)
      (rest : Spells text words) : Spells (word.text ++ text) (word :: words)

/-! ## Postfix order -/

def precedence : Word → Nat
  | .not => 3
  | .and => 2
  | .or => 1
  | _ => 0

/-- Whether an operator on the stack is applied before another one is put there. One that binds
as tightly is not, so that chains group to the right. -/
def isTighter (operator top : Word) : Bool :=
  top != .opening && operator.precedence < top.precedence

/-- The words in postfix order, given the stack of the operators that are still to be applied. -/
def toPostfix : List Word → List Word → List Word
  | operators, [] => operators
  | operators, .constant value :: rest => .constant value :: toPostfix operators rest
  | operators, .not :: rest => toPostfix (.not :: operators) rest
  | operators, .opening :: rest => toPostfix (.opening :: operators) rest
  | operators, .closing :: rest =>
    operators.takeWhile (· != .opening) ++
      toPostfix (operators.dropWhile (· != .opening)).tail rest
  | operators, operator :: rest =>
    operators.takeWhile operator.isTighter ++
      toPostfix (operator :: operators.dropWhile operator.isTighter) rest

/-- Runs words in postfix order on a stack of booleans; none if there are too few of them, or if
a parenthesis is left over. -/
def run? : List Word → List Bool → Option (List Bool)
  | [], values => some values
  | .constant value :: rest, values => run? rest (value :: values)
  | .not :: rest, value :: values => run? rest ((!value) :: values)
  | .and :: rest, right :: left :: values => run? rest ((left && right) :: values)
  | .or :: rest, right :: left :: values => run? rest ((left || right) :: values)
  | _, _ => none

example : run? (toPostfix [] [.not, .constant true, .and, .constant false]) [] = some [false] := by
  decide

example : run? (toPostfix [] [.not, .opening, .constant true, .and, .constant false, .closing]) [] =
    some [true] := by
  decide

/-! ## Stacks -/

def Admits (level : Nat) (operators : List Word) : Prop :=
  ∀ top ∈ operators.head?, top.precedence ≤ level

/-- Whether the operators of a level and of those above it are applied in front of words. -/
def Releases (level : Nat) (words : List Word) : Prop :=
  ∀ next ∈ words.head?, next = .closing ∨ (next = .and ∨ next = .or) ∧ next.precedence < level

theorem Admits.mono {level other : Nat} {operators : List Word} (admits : Admits level operators)
    (le : level ≤ other) : Admits other operators :=
  fun top isTop => Nat.le_trans (admits top isTop) le

theorem Releases.mono {level other : Nat} {words : List Word} (releases : Releases level words)
    (le : level ≤ other) : Releases other words :=
  fun next isNext => (releases next isNext).imp_right
    (And.imp_right fun less => Nat.lt_of_lt_of_le less le)

theorem toPostfix_of_releases {operator : Word} (binds : 0 < operator.precedence)
    {words : List Word} (releases : Releases operator.precedence words) (operators : List Word) :
    toPostfix (operator :: operators) words = operator :: toPostfix operators words := by
  have notOpening : (operator != .opening) = true := by
    cases operator <;> first | rfl | cases binds
  cases words with
  | nil => rfl
  | cons next rest =>
    rcases releases next rfl with rfl | ⟨rfl | rfl, less⟩
    · simp [toPostfix, notOpening]
    · have tighter : isTighter .and operator = true := by
        rw [isTighter, notOpening, decide_eq_true less, Bool.and_self]
      simp [toPostfix, tighter]
    · have tighter : isTighter .or operator = true := by
        rw [isTighter, notOpening, decide_eq_true less, Bool.and_self]
      simp [toPostfix, tighter]

theorem toPostfix_of_admits {operator : Word} (isBinary : operator = .and ∨ operator = .or)
    {operators : List Word} (admits : Admits operator.precedence operators) (words : List Word) :
    toPostfix operators (operator :: words) = toPostfix (operator :: operators) words := by
  have looser : ∀ top ∈ operators.head?, isTighter operator top = false := by
    intro top isTop
    rw [isTighter, decide_eq_false (Nat.not_lt.mpr (admits top isTop)), Bool.and_false]
  have unpopped : operators.takeWhile operator.isTighter = [] ∧
      operators.dropWhile operator.isTighter = operators := by
    cases operators with
    | nil => exact ⟨rfl, rfl⟩
    | cons top others => simp [looser top rfl]
  rcases isBinary with rfl | rfl <;> simp [toPostfix, unpopped]

/-! ## Tokens -/

def kind : Word → TokenKind
  | .constant value => .boolean value
  | .not => .not
  | .and => .and
  | .or => .or
  | .opening => .leftParenthesis
  | .closing => .rightParenthesis

theorem kind_injective {first second : Word} (same : first.kind = second.kind) :
    first = second := by
  cases first <;> cases second <;> cases same <;> rfl

theorem head?_of_spells {text : List Char} {words : List Word} (spells : Spells text words) :
    text.head? ≠ some '=' := by
  cases spells with
  | nothing => nofun
  | blank isBlank =>
    intro isEqual
    rw [Option.some.inj isEqual] at isBlank
    exact absurd isBlank (by decide)
  | @word word =>
    cases word with
    | constant value =>
      cases value <;> exact fun equal => absurd (Option.some.inj equal) (by decide)
    | _ => exact fun equal => absurd (Option.some.inj equal) (by decide)

theorem Spells.cuts {text : List Char} {words : List Word} (spells : Spells text words) :
    Lexer.standard.Cuts text (words.map kind) := by
  induction spells with
  | nothing => exact .nothing
  | blank isBlank _ induction => exact induction.blank_cons isBlank
  | @word word text words ends rest induction =>
    have kept : word.kind.type ≠ .whitespace := by
      rcases word with (_ | _) | _ <;> decide
    have reads : Lexer.tokenKind word.kind.type word.text 0 = .ok word.kind := by
      rcases word with (_ | _) | _ <;> rfl
    have next : Lexer.standard.next? (word.text ++ text) =
        some (word.text.length, word.kind.type) := by
      cases word with
      | constant value => cases value <;> exact Lexer.next?_keyword rfl (ends rfl)
      | not => exact Lexer.next?_not (head?_of_spells rest)
      | and | or | opening | closing => exact Lexer.next?_symbol rfl (by decide) text
    exact induction.token_append next kept reads

end Word

/-! ## Phrases -/

namespace Grammar

open Word

def Category.level : Category → Nat
  | .disjunction | .arguments => 1
  | .conjunction => 2
  | _ => 3

/-- Whether an expression has a value, and words leave it behind on the stack of booleans. -/
def Judges (level : Nat) (words : List Word) (expr : Expr) : Prop :=
  ∃ holds : Bool, (∀ setting, (Node.ofExpr expr).value setting = .done (.bool holds)) ∧
    ∀ operators rest values, Admits level operators → Releases level rest →
      run? (toPostfix operators (words ++ rest)) values =
        run? (toPostfix operators rest) (holds :: values)

variable {scope : Scope}

theorem judges_constant {value : Bool} (level : Nat) (span : Span) :
    Judges level [.constant value] (.literal (.bool value) span) :=
  ⟨value, fun _ => by rw [Node.ofExpr, Node.value], fun _ _ _ _ _ => by
    rw [List.singleton_append, toPostfix, run?]⟩

theorem Judges.mono {level other : Nat} {words : List Word} {expr : Expr}
    (judges : Judges other words expr) (le : level ≤ other) : Judges level words expr := by
  rcases judges with ⟨holds, value, runs⟩
  exact ⟨holds, value, fun operators rest values admits releases =>
    runs operators rest values (admits.mono le) (releases.mono le)⟩

theorem Judges.group {words : List Word} {expr : Expr} (judges : Judges 1 words expr)
    (level : Nat) : Judges level (.opening :: (words ++ [.closing])) expr := by
  rcases judges with ⟨holds, value, runs⟩
  refine ⟨holds, value, fun operators rest values _ _ => ?_⟩
  have admits : Admits 1 (.opening :: operators) := by
    rintro top ⟨⟩
    exact Nat.zero_le 1
  have releases : Releases 1 (.closing :: rest) := by
    rintro next ⟨⟩
    exact .inl rfl
  rw [List.cons_append, List.append_assoc, toPostfix, List.singleton_append,
    runs _ _ values admits releases]
  rfl

theorem Judges.not {words : List Word} {expr : Expr} (judges : Judges 3 words expr)
    (span : Span) : Judges 3 (.not :: words) (.not expr span) := by
  rcases judges with ⟨holds, value, runs⟩
  refine ⟨!holds, fun setting => ?_, fun operators rest values _ releases => ?_⟩
  · rw [Node.ofExpr, Node.value, value]
    rfl
  · have admits : Admits 3 (.not :: operators) := by
      rintro top ⟨⟩
      exact Nat.le_refl 3
    have released : Releases (precedence .not) rest := releases
    have applied := toPostfix_of_releases (by decide) released operators
    rw [List.cons_append, toPostfix, runs _ _ values admits releases, applied, run?]

theorem Judges.binary {operator : Word} {join : Bool → Bool → Bool} {leftLevel : Nat}
    {leftWords rightWords : List Word} {left right expr : Expr}
    (isBinary : operator = .and ∨ operator = .or) (tighter : operator.precedence < leftLevel)
    (applies : ∀ rest left right values, run? (operator :: rest) (right :: left :: values) =
      run? rest (join left right :: values))
    (joins : ∀ setting leftHolds rightHolds,
      (Node.ofExpr left).value setting = .done (.bool leftHolds) →
      (Node.ofExpr right).value setting = .done (.bool rightHolds) →
      (Node.ofExpr expr).value setting = .done (.bool (join leftHolds rightHolds)))
    (leftJudges : Judges leftLevel leftWords left)
    (rightJudges : Judges operator.precedence rightWords right) :
    Judges operator.precedence (leftWords ++ operator :: rightWords) expr := by
  rcases leftJudges with ⟨leftHolds, leftValue, leftRuns⟩
  rcases rightJudges with ⟨rightHolds, rightValue, rightRuns⟩
  refine ⟨join leftHolds rightHolds,
    fun setting => joins setting _ _ (leftValue setting) (rightValue setting),
    fun operators rest values admits releases => ?_⟩
  have leftReleases : Releases leftLevel (operator :: (rightWords ++ rest)) := by
    rintro next ⟨⟩
    exact .inr ⟨isBinary, tighter⟩
  have rightAdmits : Admits operator.precedence (operator :: operators) := by
    rintro top ⟨⟩
    exact Nat.le_refl _
  have binds : 0 < operator.precedence := by
    rcases isBinary with rfl | rfl <;> decide
  -- The operator waits on the stack until the words of its right operand are done.
  calc run? (toPostfix operators (leftWords ++ operator :: rightWords ++ rest)) values
    _ = run? (toPostfix operators (operator :: (rightWords ++ rest))) (leftHolds :: values) := by
      rw [List.append_assoc, List.cons_append,
        leftRuns _ _ _ (admits.mono (Nat.le_of_lt tighter)) leftReleases]
    _ = run? (toPostfix (operator :: operators) rest) (rightHolds :: leftHolds :: values) := by
      rw [toPostfix_of_admits isBinary admits, rightRuns _ _ _ rightAdmits releases]
    _ = run? (toPostfix operators rest) (join leftHolds rightHolds :: values) := by
      rw [toPostfix_of_releases binds releases, applies]

theorem Judges.and {leftWords rightWords : List Word} {left right : Expr}
    (leftJudges : Judges 3 leftWords left) (rightJudges : Judges 2 rightWords right) :
    Judges 2 (leftWords ++ .and :: rightWords) (.and left right) :=
  Judges.binary (.inl rfl) (by decide) (fun _ _ _ _ => by rw [run?])
    (fun setting leftHolds rightHolds leftValue rightValue => by
      rw [Node.ofExpr, Node.value, leftValue, rightValue]
      cases leftHolds <;> rfl) leftJudges rightJudges

theorem Judges.or {leftWords rightWords : List Word} {left right : Expr}
    (leftJudges : Judges 2 leftWords left) (rightJudges : Judges 1 rightWords right) :
    Judges 1 (leftWords ++ .or :: rightWords) (.or left right) :=
  Judges.binary (.inr rfl) (by decide) (fun _ _ _ _ => by rw [run?])
    (fun setting leftHolds rightHolds leftValue rightValue => by
      rw [Node.ofExpr, Node.value, leftValue, rightValue]
      cases leftHolds <;> rfl) leftJudges rightJudges

def Category.Judges : (category : Category) → List Word → category.Meaning → Prop
  | .value, words, expr | .comparison, words, expr | .negation, words, expr =>
    Grammar.Judges 3 words expr
  | .conjunction, words, expr => Grammar.Judges 2 words expr
  | .disjunction, words, expr => Grammar.Judges 1 words expr
  | .arguments, _, _ => True

theorem map_kind_eq_append {words : List Word} {first second : List Token} {joint : Token}
    (spelled : (first ++ joint :: second).map Token.kind = words.map Word.kind) :
    ∃ before word after, words = before ++ word :: after ∧ word.kind = joint.kind ∧
      first.map Token.kind = before.map Word.kind ∧
      second.map Token.kind = after.map Word.kind := by
  rw [List.map_append, List.map_cons, eq_comm] at spelled
  rcases List.map_eq_append_iff.mp spelled with ⟨before, behind, rfl, isFirst, isBehind⟩
  rcases List.map_eq_cons_iff.mp isBehind with ⟨word, after, rfl, isWord, isSecond⟩
  exact ⟨before, word, after, rfl, isWord, isFirst.symm, isSecond.symm⟩

theorem judges_of_means {category : Category} {phrase : Phrase category}
    {meaning : category.Meaning} (means : phrase.Means scope meaning) {words : List Word}
    (spelled : phrase.tokens.map Token.kind = words.map Word.kind) :
    category.Judges words meaning := by
  induction means generalizing words with
  | @literal kind value denotes span =>
    rcases List.map_eq_cons_iff.mp spelled.symm with ⟨word, others, rfl, rfl, others_nil⟩
    rcases List.map_eq_nil_iff.mp others_nil with rfl
    cases word with
    | constant holds =>
      cases denotes
      exact judges_constant 3 span
    | _ => cases denotes
  | name | emptyCall | call =>
    rcases List.map_eq_cons_iff.mp spelled.symm with ⟨word, _, _, isWord, _⟩
    cases word <;> cases isWord
  | relation | relationOfMoments =>
    rcases map_kind_eq_append spelled with ⟨_, word, _, _, isWord, _⟩
    cases word <;> cases isWord
  | @group start close inner expr means induction =>
    rcases List.map_eq_cons_iff.mp spelled.symm with ⟨word, others, rfl, isWord, isRest⟩
    obtain rfl : word = .opening := kind_injective isWord
    rcases map_kind_eq_append isRest.symm with ⟨before, word, after, rfl, isWord, isInner, isEnd⟩
    obtain rfl : word = .closing := kind_injective isWord
    rcases List.map_eq_nil_iff.mp isEnd.symm with rfl
    exact (induction isInner).group 3
  | single means induction => exact induction spelled
  | plain means induction => exact induction spelled
  | @not place operand expr means isBool induction =>
    rcases List.map_eq_cons_iff.mp spelled.symm with ⟨word, others, rfl, isWord, isRest⟩
    obtain rfl : word = .not := kind_injective isWord
    exact (induction isRest.symm).not _
  | lastConjunct means induction => exact (induction spelled).mono (by decide)
  | and firstMeans secondMeans leftIsBool rightIsBool firstInduction secondInduction =>
    rcases map_kind_eq_append spelled with ⟨before, word, after, rfl, isWord, isFirst, isSecond⟩
    obtain rfl : word = .and := kind_injective isWord
    exact (firstInduction isFirst).and (secondInduction isSecond)
  | lastDisjunct means induction => exact (induction spelled).mono (by decide)
  | or firstMeans secondMeans leftIsBool rightIsBool firstInduction secondInduction =>
    rcases map_kind_eq_append spelled with ⟨before, word, after, rfl, isWord, isFirst, isSecond⟩
    obtain rfl : word = .or := kind_injective isWord
    exact (firstInduction isFirst).or (secondInduction isSecond)
  | lastArgument | argument => trivial

end Grammar

namespace Compiler

/-- A condition of constants and operators comes to what its words say in postfix order: the run
never lacks a boolean, and leaves one. -/
theorem Reached.evaluate_eq_run? {schema : Schema} {compiler : Compiler}
    (reached : compiler.Reached schema) (standard : compiler.lexer = .standard)
    {context : ObjectType} (known : context ∈ schema.types) {source : String}
    {words : List Word} (spells : Word.Spells source.toList words) {compiled : Compiled}
    (compiles : (compiler.compile context source).1 = .ok compiled) :
    ∃ holds, Word.run? (Word.toPostfix [] words) [] = some [holds] ∧
      ∀ (clock : Clock) (record : Record), record.type.id = context.id →
        compiled.predicate.evaluate clock record = ⟨[], .ok holds⟩ := by
  rcases reached.readWith known compiles with ⟨expr, readWith⟩
  rcases readWith.cut with ⟨scope, tokens, rfl, tokenized, read⟩
  rcases spells.cuts.tokenize with ⟨inner, stop, cut, kinds⟩
  rw [standard, cut] at tokenized
  cases tokenized
  rcases Grammar.ofTokens_eq_ok_iff.mp read with ⟨phrase, spelled, _, means, _⟩
  have noEnd : ∀ token ∈ inner, token.kind ≠ .endOfInput := by
    intro token member isEnd
    have isKind : token.kind ∈ words.map Word.kind := kinds ▸ List.mem_map_of_mem member
    rcases List.mem_map.mp isKind with ⟨word, _, equal⟩
    rw [isEnd] at equal
    cases word <;> cases equal
  rw [Grammar.ofTokens_append_end noEnd] at spelled
  have spelled : phrase.tokens = inner := spelled
  rw [← spelled] at kinds
  rcases Grammar.judges_of_means means kinds with ⟨holds, value, runs⟩
  refine ⟨holds, ?_, fun clock record ofContext => ?_⟩
  · have finished := runs [] [] [] nofun nofun
    rwa [List.append_nil] at finished
  · rw [readWith.predicate_eq, Predicate.evaluate, Predicate.ofExpr]
    simp only [if_pos ofContext, Node.test, value]
    rfl

theorem evaluate_eq_run?_negation :
    ∃ compiled, (standard.compile .person "!(true && false)").1 = .ok compiled ∧
      ∃ holds, Word.run? (Word.toPostfix [] [.not, .opening, .constant true, .and, .constant false,
          .closing]) [] = some [holds] ∧
        ∀ (clock : Clock) (record : Record), record.type.id = ObjectType.person.id →
          compiled.predicate.evaluate clock record = ⟨[], .ok holds⟩ := by
  have isStandard : standard.lexer = .standard := by dsimp only [standard]
  have reached : standard.Reached .people := .initial (by dsimp only [standard])
  have isText : "!(true && false)".toList =
      ['!', '(', 't', 'r', 'u', 'e', ' ', '&', '&', ' ', 'f', 'a', 'l', 's', 'e', ')'] := by
    decide
  have spells : Word.Spells "!(true && false)".toList
      [.not, .opening, .constant true, .and, .constant false, .closing] := by
    rw [isText]
    exact @Word.Spells.word .not _ _ nofun <| @Word.Spells.word .opening _ _ nofun <|
      @Word.Spells.word (.constant true) _ _ (fun _ => by decide) <|
      .blank (by decide) <| @Word.Spells.word .and _ _ nofun <| .blank (by decide) <|
      @Word.Spells.word (.constant false) _ _ (fun _ => by decide) <|
      @Word.Spells.word .closing _ _ nofun .nothing
  have accepts : (standard.compile .person "!(true && false)").1.toOption.any (fun _ => true) =
      true := by
    decide +kernel
  rcases exists_eq_ok_of_any accepts with ⟨compiled, compiles, _⟩
  exact ⟨compiled, compiles,
    reached.evaluate_eq_run? isStandard (List.mem_cons_self ..) spells compiles⟩

end Compiler

end Proviso
