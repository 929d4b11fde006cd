import Proviso.Function.Builtin
import Proviso.Proofs.Grammar.Completeness

/-!
Reading a condition is finding its phrase. The tokens in front of the end are accepted if, and
only if, some phrase spells them that is not nested too deeply and means a boolean expression;
there is at most one such phrase, and its chains of `&&` and of `||` group to the right.
-/

namespace Proviso

namespace Grammar

open Outcome

variable {scope : Scope}

theorem isEnd_eq_false_iff {kind : TokenKind} : kind.isEnd = false ↔ kind ≠ .endOfInput := by
  cases kind <;> simp [TokenKind.isEnd]

theorem ofTokens_append_end {tokens : List Token}
    (inner : ∀ token ∈ tokens, token.kind ≠ .endOfInput) (stop : Span) :
    TokenStream.ofTokens (tokens ++ [⟨.endOfInput, stop⟩]) = ⟨tokens, stop⟩ := by
  have kept : ∀ token ∈ tokens, token.kind.isEnd = false := fun token member =>
    isEnd_eq_false_iff.mpr (inner token member)
  have found : (tokens ++ [(⟨.endOfInput, stop⟩ : Token)]).find? (·.kind.isEnd) =
      some ⟨.endOfInput, stop⟩ := by
    rw [List.find?_append, List.find?_eq_none.mpr (by simpa using kept)]
    rfl
  have taken : (tokens ++ [(⟨.endOfInput, stop⟩ : Token)]).takeWhile (!·.kind.isEnd) =
      tokens := by
    rw [List.takeWhile_append_of_pos (by simpa using kept)]
    simp [TokenKind.isEnd]
  rw [TokenStream.ofTokens, found, taken]

theorem Phrase.Means.unique {phrase : Phrase .disjunction} {first second : Expr}
    (firstMeans : phrase.Means scope first) (secondMeans : phrase.Means scope second) :
    first = second := by
  have firstTaken : disjunction scope .zero (nested scope .zero phrase.depth)
      (phrase.tokens ++ []) = .ok (first, []) :=
    takes_of_means firstMeans (Nat.le_refl _) (by simp)
  have secondTaken : disjunction scope .zero (nested scope .zero phrase.depth)
      (phrase.tokens ++ []) = .ok (second, []) :=
    takes_of_means secondMeans (Nat.le_refl _) (by simp)
  rw [firstTaken] at secondTaken
  exact (Prod.mk.inj (Except.ok.inj secondTaken)).1

theorem disjunction_eq_ok_iff {stop : Span} {levels : Nat} {tokens : List Token} {expr : Expr} :
    disjunction scope stop (nested scope stop levels) tokens = .ok (expr, []) ↔
      ∃ phrase : Phrase .disjunction, phrase.tokens = tokens ∧ phrase.depth ≤ levels ∧
        phrase.Means scope expr := by
  constructor
  · intro read
    rcases disjunction_sound (nested_sound levels) read with ⟨phrase, spelled, depth, means⟩
    exact ⟨phrase, by simpa using spelled, Nat.le_of_lt_succ depth, means⟩
  · rintro ⟨phrase, rfl, depth, means⟩
    have taken : disjunction scope stop (nested scope stop levels) (phrase.tokens ++ []) =
        .ok (expr, []) := takes_of_means means depth (by simp)
    simpa using taken

theorem ofTokens_eq_ok_iff {tokens : List Token} {expr : Expr} :
    Expr.ofTokens scope tokens = .ok expr ↔
      ∃ phrase : Phrase .disjunction, phrase.tokens = (TokenStream.ofTokens tokens).tokens ∧
        phrase.depth ≤ scope.maxDepth ∧ phrase.Means scope expr ∧ expr.type = .bool := by
  simp only [Expr.ofTokens, bind_eq_ok]
  constructor
  · rintro ⟨⟨read, rest⟩, taken, finished⟩
    dsimp only at finished
    split at finished
    case h_1 =>
      rcases bind_eq_ok.mp finished with ⟨_, isBool, equal⟩
      rcases pure_eq_ok.mp equal with rfl
      rcases disjunction_eq_ok_iff.mp taken with ⟨phrase, spelled, depth, means⟩
      exact ⟨phrase, spelled, depth, means, requireBoolean_eq_ok.mp isBool⟩
    case h_2 => cases finished
  · rintro ⟨phrase, spelled, depth, means, isBool⟩
    exact ⟨_, disjunction_eq_ok_iff.mpr ⟨phrase, spelled, depth, means⟩,
      bind_eq_ok.mpr ⟨_, requireBoolean_eq_ok.mpr isBool, rfl⟩⟩

/-! ## Chains -/

def chainTokens {category : Category} (joint : TokenKind) (first : Phrase category)
    (others : List (Span × Phrase category)) : List Token :=
  first.tokens ++ others.flatMap fun (place, operand) => ⟨joint, place⟩ :: operand.tokens

namespace Phrase

def conjunctionOf : Phrase .negation → List (Span × Phrase .negation) → Phrase .conjunction
  | last, [] => .lastConjunct last
  | first, (place, next) :: rest => .and first place (conjunctionOf next rest)

def disjunctionOf : Phrase .conjunction → List (Span × Phrase .conjunction) → Phrase .disjunction
  | last, [] => .lastDisjunct last
  | first, (place, next) :: rest => .or first place (disjunctionOf next rest)

@[simp] theorem tokens_conjunctionOf (first : Phrase .negation)
    (others : List (Span × Phrase .negation)) :
    (conjunctionOf first others).tokens = chainTokens .and first others := by
  induction others generalizing first with
  | nil => simp [conjunctionOf, chainTokens, tokens]
  | cons next rest induction => simp [conjunctionOf, tokens, induction, chainTokens]

@[simp] theorem tokens_disjunctionOf (first : Phrase .conjunction)
    (others : List (Span × Phrase .conjunction)) :
    (disjunctionOf first others).tokens = chainTokens .or first others := by
  induction others generalizing first with
  | nil => simp [disjunctionOf, chainTokens, tokens]
  | cons next rest induction => simp [disjunctionOf, tokens, induction, chainTokens]

end Phrase

end Grammar

def Expr.joinedRight (join : Expr → Expr → Expr) : Expr → List Expr → Expr
  | last, [] => last
  | first, next :: rest => join first (joinedRight join next rest)

namespace Grammar

inductive MeansEach (scope : Scope) {category : Category} :
    List (Span × Phrase category) → List category.Meaning → Prop where
  | nil : MeansEach scope [] []
  | cons {place : Span} {operand : Phrase category} {others : List (Span × Phrase category)}
      {meaning : category.Meaning} {meanings : List category.Meaning}
      (means : operand.Means scope meaning) (rest : MeansEach scope others meanings) :
      MeansEach scope ((place, operand) :: others) (meaning :: meanings)

theorem means_conjunctionOf {first : Phrase .negation} {others : List (Span × Phrase .negation)}
    {expr : Expr} (means : (Phrase.conjunctionOf first others).Means scope expr) :
    ∃ head rest, first.Means scope head ∧ MeansEach scope others rest ∧
      expr = Expr.joinedRight .and head rest := by
  induction others generalizing first expr with
  | nil =>
    cases means with
    | lastConjunct means => exact ⟨expr, [], means, .nil, rfl⟩
  | cons next others induction =>
    cases means with
    | and firstMeans secondMeans =>
      rcases induction secondMeans with ⟨head, rest, headMeans, restMean, rfl⟩
      exact ⟨_, head :: rest, firstMeans, .cons headMeans restMean, rfl⟩

theorem means_disjunctionOf {first : Phrase .conjunction}
    {others : List (Span × Phrase .conjunction)} {expr : Expr}
    (means : (Phrase.disjunctionOf first others).Means scope expr) :
    ∃ head rest, first.Means scope head ∧ MeansEach scope others rest ∧
      expr = Expr.joinedRight .or head rest := by
  induction others generalizing first expr with
  | nil =>
    cases means with
    | lastDisjunct means => exact ⟨expr, [], means, .nil, rfl⟩
  | cons next others induction =>
    cases means with
    | or firstMeans secondMeans =>
      rcases induction secondMeans with ⟨head, rest, headMeans, restMean, rfl⟩
      exact ⟨_, head :: rest, firstMeans, .cons headMeans restMean, rfl⟩

/-! ## The grammar of conditions -/

/-- A list of tokens, of which only the last is the end, is read as an expression if and only if
the tokens before the end are spelled by a phrase of at most the depth allowed that means the
expression, and the expression is a boolean. There is only one such phrase, with one meaning,
and in every phrase a chain of conjuncts or of disjuncts is grouped to the right. -/
theorem ofTokens_eq_ok_iff_unique_phrase (scope : Scope) {tokens : List Token}
    (inner : ∀ token ∈ tokens, token.kind ≠ .endOfInput) (stop : Span) :
    (∀ expr, Expr.ofTokens scope (tokens ++ [⟨.endOfInput, stop⟩]) = .ok expr ↔
      ∃ phrase : Phrase .disjunction, phrase.tokens = tokens ∧ phrase.depth ≤ scope.maxDepth ∧
        phrase.Means scope expr ∧ expr.type = .bool) ∧
    (∀ first second : Phrase .disjunction, first.tokens = tokens → second.tokens = tokens →
      first = second ∧ ∀ left right, first.Means scope left → second.Means scope right →
        left = right) ∧
    (∀ (phrase : Phrase .conjunction) (first : Phrase .negation)
      (others : List (Span × Phrase .negation)) (expr : Expr),
      phrase.tokens = chainTokens .and first others → phrase.Means scope expr →
        ∃ head rest, first.Means scope head ∧ MeansEach scope others rest ∧
          expr = Expr.joinedRight .and head rest) ∧
    (∀ (phrase : Phrase .disjunction) (first : Phrase .conjunction)
      (others : List (Span × Phrase .conjunction)) (expr : Expr),
      phrase.tokens = chainTokens .or first others → phrase.Means scope expr →
        ∃ head rest, first.Means scope head ∧ MeansEach scope others rest ∧
          expr = Expr.joinedRight .or head rest) := by
  refine ⟨fun expr => ?_, fun first second firstSpelled secondSpelled => ?_,
    fun phrase first others expr spelled means => ?_,
    fun phrase first others expr spelled means => ?_⟩
  · rw [ofTokens_eq_ok_iff, ofTokens_append_end inner]
  · rcases Phrase.tokens_injective (firstSpelled.trans secondSpelled.symm) with rfl
    exact ⟨rfl, fun left right leftMeans rightMeans => leftMeans.unique rightMeans⟩
  · rw [← Phrase.tokens_conjunctionOf] at spelled
    rcases Phrase.tokens_injective spelled with rfl
    exact means_conjunctionOf means
  · rw [← Phrase.tokens_disjunctionOf] at spelled
    rcases Phrase.tokens_injective spelled with rfl
    exact means_disjunctionOf means

def birthScope : Scope where
  context := ⟨3, "Birth", [⟨"Born", .datetime, none⟩, ⟨"Name", .string, none⟩], []⟩
  library := ⟨[Builtin.length]⟩
  enums := []
  maxDepth := 3

/-- `Born < '2000-01-01' && !(Length(Name) == 3)` -/
def birthTokens : List Token :=
  [⟨.identifier "Born", .zero⟩, ⟨.relation .less, .zero⟩, ⟨.string "2000-01-01", .zero⟩,
    ⟨.and, .zero⟩, ⟨.not, .zero⟩, ⟨.leftParenthesis, .zero⟩, ⟨.functionOpen "Length", .zero⟩,
    ⟨.identifier "Name", .zero⟩, ⟨.rightParenthesis, .zero⟩, ⟨.relation .equal, .zero⟩,
    ⟨.integer 3, .zero⟩, ⟨.rightParenthesis, .zero⟩]

theorem birthTokens_phrase :
    let born : Expr := .relational .less (.property "Born" [0] .datetime .zero)
      (.literal (.datetime (.midnight ⟨2000, 1, 1, by decide⟩)) .zero) .datetime
    let measured : Expr := .call Builtin.length [.property "Name" [1] .string .zero] .zero
    let three : Expr := .relational .equal measured (.literal (.int 3) .zero) .int
    ∃ phrase : Phrase .disjunction, phrase.tokens = birthTokens ∧ phrase.depth ≤ 3 ∧
      phrase.Means birthScope (.and born (.not three .zero)) ∧
      (Expr.and born (.not three .zero)).type = .bool := by
  intro born measured three
  have inner : ∀ token ∈ birthTokens, token.kind ≠ .endOfInput := by
    simp [birthTokens]
  have characterized := ofTokens_eq_ok_iff_unique_phrase birthScope inner .zero
  exact (characterized.1 _).mp rfl

end Grammar

end Proviso
