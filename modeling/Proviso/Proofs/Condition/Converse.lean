import Proviso.Proofs.Compiler.Coherence
import Proviso.Proofs.Condition.Dependence
import Proviso.Proofs.Condition.Soundness
import Proviso.Proofs.Grammar.Converse
import Proviso.Proofs.Token.Cuts
import Proviso.Proofs.Value.Symmetry

/-!
Conditions that are comparisons written the other way round. Both are compiled or neither is, and
where no function fails they come to the same, unless one side of an equality has the wildcard for
its value: the wildcard counts as a target even where it is data of the record.
-/

namespace Proviso

/-! ## Evaluation -/

theorem Evaluation.outcome_andThen_eq_ok {α β : Type} {first : Evaluation α}
    {second : α → Evaluation β} {before : Nat} {result : β} :
    (first.andThen second before).outcome = .ok result ↔
      ∃ value, (first before).outcome = .ok value ∧
        (second value (before + (first before).calls.length)).outcome = .ok result := by
  cases outcome : (first before).outcome with
  | error fault => simp [andThen_of_error outcome]
  | ok value => simp [andThen_of_ok outcome]

namespace Node

open Evaluation

variable {setting other : Setting} {relation : Relation} {left right : Node}

theorem test_relational (setting : Setting) (relation : Relation) (left right : Node) :
    test setting (.relational relation left right) =
      (left.value setting).andThen fun dependent =>
        (right.value setting).andThen fun target =>
          ofOutcome ((dependent.compare relation setting.caseSensitive target).mapError
            .comparisonFailed) := by
  have tested (dependent target : Value) :
      (compare setting relation dependent target).andThen expectBool =
        ofOutcome ((dependent.compare relation setting.caseSensitive target).mapError
          .comparisonFailed) := by
    funext before
    unfold compare
    cases dependent.compare relation setting.caseSensitive target <;> rfl
  simp only [test, value, andThen_assoc, tested]

theorem test_relational_eq_ok {before : Nat} {holds : Bool} :
    (test setting (.relational relation left right) before).outcome = .ok holds ↔
      ∃ dependent target, (left.value setting before).outcome = .ok dependent ∧
        (right.value setting (before + (left.value setting before).calls.length)).outcome =
          .ok target ∧
        dependent.compare relation setting.caseSensitive target = .ok holds := by
  rw [test_relational, outcome_andThen_eq_ok]
  refine exists_congr fun dependent => ?_
  rw [outcome_andThen_eq_ok]
  simp only [ofOutcome, Outcome.mapError_eq_ok, exists_and_left]

theorem calls_test_relational {before : Nat} {dependent target : Value}
    (leftValue : (left.value setting before).outcome = .ok dependent)
    (rightValue : (right.value setting
      (before + (left.value setting before).calls.length)).outcome = .ok target) :
    (test setting (.relational relation left right) before).calls =
      (left.value setting before).calls ++
        (right.value setting (before + (left.value setting before).calls.length)).calls := by
  rw [test_relational, andThen_of_ok leftValue, andThen_of_ok rightValue]
  simp [ofOutcome]

theorem outcome_test_converse (sameCase : setting.caseSensitive = other.caseSensitive)
    (leftSame : (left.value setting).Agrees (left.value other))
    (rightSame : (right.value setting).Agrees (right.value other)) {before : Nat} {holds : Bool}
    (succeeds : (test setting (.relational relation left right) before).outcome = .ok holds)
    (pure : ∀ call ∈ (test setting (.relational relation left right) before).calls,
      call.function.IsPure)
    (converse : ∀ dependent target, (left.value setting before).outcome = .ok dependent →
      (right.value setting (before + (left.value setting before).calls.length)).outcome =
        .ok target →
      target.compare relation.converse setting.caseSensitive dependent =
        dependent.compare relation setting.caseSensitive target) (otherBefore : Nat) :
    (test other (.relational relation.converse right left) otherBefore).outcome = .ok holds := by
  rcases test_relational_eq_ok.mp succeeds with
    ⟨dependent, target, leftValue, rightValue, compared⟩
  rw [calls_test_relational leftValue rightValue, List.forall_mem_append] at pure
  refine test_relational_eq_ok.mpr ⟨target, dependent, ?_, ?_, ?_⟩
  · rw [← rightSame _ otherBefore pure.2, rightValue]
  · rw [← leftSame before _ pure.1, leftValue]
  · rw [← sameCase, converse dependent target leftValue rightValue, compared]

/-- Whether a node is an equality of values that it can tell apart by their sides. -/
def IsLopsided (setting : Setting) (node : Node) : Prop :=
  ∃ relation left right dependent target, node = .relational relation left right ∧
    relation.isOrdering = false ∧ (left.value setting 0).outcome = .ok dependent ∧
    (right.value setting (left.value setting 0).calls.length).outcome = .ok target ∧
    dependent.Lopsided target

theorem exists_outcome_test_converse {schema : Schema} {scope : Scope} {record : Record}
    (built : record.Built schema) (ofContext : record.type = scope.context) {left right : Expr}
    {type otherType : Ty} (checked : (Expr.relational relation left right type).Checked scope)
    (otherChecked : (Expr.relational relation.converse right left otherType).Checked scope)
    {clock : Clock} {caseSensitive : Bool}
    (wellBehaved : ∀ call ∈ (test ⟨record, clock, caseSensitive⟩
        (.ofExpr (.relational relation left right type)) 0).calls,
      call.function.IsPure ∧ ∀ moment fault, ¬ call.Fails moment fault)
    (even : ¬ IsLopsided ⟨record, clock, caseSensitive⟩
      (.ofExpr (.relational relation left right type))) (otherClock : Clock) :
    ∃ holds, (test ⟨record, clock, caseSensitive⟩
        (.ofExpr (.relational relation left right type)) 0).outcome = .ok holds ∧
      (test ⟨record, otherClock, caseSensitive⟩
        (.ofExpr (.relational relation.converse right left otherType)) 0).outcome = .ok holds := by
  let setting : Setting := ⟨record, clock, caseSensitive⟩
  let other : Setting := ⟨record, otherClock, caseSensitive⟩
  have trusts := scope.trusts_plain
  have sound : (test setting (.ofExpr (.relational relation left right type))).Sound clock
      fun _ => True :=
    sound_test trusts rfl (sound_value setting built ofContext trusts checked)
  rw [ofExpr] at wellBehaved even sound ⊢
  rw [ofExpr]
  cases checked with
  | relational leftChecked rightChecked orderable =>
    cases otherChecked with
    | relational _ _ otherOrderable =>
      have leftSound := sound_value setting built ofContext trusts leftChecked
      have rightSound := sound_value setting built ofContext trusts rightChecked
      -- The sides are evaluated at other times here, which makes no difference to pure calls.
      have leftSame : ((ofExpr left).value setting).Agrees ((ofExpr left).value other) :=
        agrees_value setting other built built ofContext ofContext rfl leftChecked fun _ _ => rfl
      have rightSame : ((ofExpr right).value setting).Agrees ((ofExpr right).value other) :=
        agrees_value setting other built built ofContext ofContext rfl rightChecked fun _ _ => rfl
      cases outcome : (test setting (.relational relation (.ofExpr left) (.ofExpr right))
          0).outcome with
      | error fault =>
        rcases sound.blames outcome with ⟨earlier, call, calls, fails⟩
        exact absurd fails ((wellBehaved call (by rw [calls]; simp)).2 _ fault)
      | ok holds =>
        refine ⟨holds, rfl, ?_⟩
        have sameCase : setting.caseSensitive = other.caseSensitive := rfl
        refine outcome_test_converse sameCase leftSame rightSame outcome
          (fun call member => (wellBehaved call member).1) ?_ 0
        intro dependent target leftValue rightValue
        have leftYields := leftSound.fits leftValue
        have rightYields := rightSound.fits rightValue
        rw [Nat.zero_add] at rightValue
        refine Value.compare_converse caseSensitive (fun ordering => ⟨?_, ?_⟩) ?_
        · exact (orderable ordering).values trusts leftYields rightYields
        · rw [← Relation.isOrdering_converse] at ordering
          exact (otherOrderable ordering).values trusts rightYields leftYields
        · cases ordering : relation.isOrdering with
          | true => exact .inl rfl
          | false =>
            exact .inr fun lopsided =>
              even ⟨_, _, _, dependent, target, rfl, ordering, leftValue, rightValue, lopsided⟩

def equates (slots otherSlots : List Nat) : Node → Bool
  | .relational .equal (.field first) (.field second) => first == slots && second == otherSlots
  | _ => false

theorem eq_of_equates {slots otherSlots : List Nat} {node : Node}
    (equated : node.equates slots otherSlots = true) :
    node = .relational .equal (.field slots) (.field otherSlots) := by
  unfold equates at equated
  split at equated
  case h_1 =>
    rw [Bool.and_eq_true, beq_iff_eq, beq_iff_eq] at equated
    rw [equated.1, equated.2]
  case h_2 => cases equated

end Node

/-! ## Reading -/

open Outcome

def comparisonText (first : String) (relation : Relation) (second : String) : String :=
  first ++ " " ++ relation.text ++ " " ++ second

/-- Whether a text of the language is a value, and never the wildcard. -/
structure IsOperand (scope : Scope) (text : String) (phrase : Grammar.Phrase .value) : Prop where
  spells : ∃ stop, Lexer.standard.tokenize text false =
    .ok (phrase.tokens ++ [⟨.endOfInput, stop⟩])
  plain : phrase.IsPlain scope

theorem isOperand_name {scope : Scope} {text path : String} {span stop : Span}
    (cut : Lexer.standard.tokenize text false =
      .ok [⟨.identifier path, span⟩, ⟨.endOfInput, stop⟩]) :
    IsOperand scope text (.name path span) where
  spells := ⟨stop, cut⟩
  plain := by
    intro expr means
    cases means with
    | name means => cases means <;> rfl

def Token.areName (path : String) : List Token → Bool
  | [⟨.identifier other, _⟩, ⟨.endOfInput, _⟩] => other == path
  | _ => false

theorem exists_isOperand_of_areName (scope : Scope) {path : String}
    (isName : (Lexer.standard.tokenize path false).toOption.any (Token.areName path) = true) :
    ∃ span, IsOperand scope path (.name path span) := by
  rcases exists_eq_ok_of_any isName with ⟨tokens, cut, isName⟩
  unfold Token.areName at isName
  split at isName
  case h_1 => exact ⟨_, isOperand_name (beq_iff_eq.mp isName ▸ cut)⟩
  case h_2 => cases isName

namespace Compiler

variable {compiler : Compiler} {context : ObjectType} {source : String} {compiled : Compiled}

variable {first second : String} {firstPhrase secondPhrase : Grammar.Phrase .value}
  {relation : Relation}

theorem exists_tokens (isFirst : IsOperand (compiler.scope context) first firstPhrase)
    (isSecond : IsOperand (compiler.scope context) second secondPhrase) (relation : Relation) :
    ∃ tokens stop, Lexer.standard.tokenize (comparisonText first relation second) false =
        .ok (tokens ++ [⟨.endOfInput, stop⟩]) ∧
      tokens.map Token.kind =
        (Grammar.Phrase.comparing firstPhrase relation secondPhrase).tokens.map Token.kind := by
  rcases isFirst.spells with ⟨firstStop, firstCut⟩
  rcases isSecond.spells with ⟨secondStop, secondCut⟩
  rcases Lexer.tokenize_comparison firstCut secondCut relation with ⟨tokens, stop, cut, kinds⟩
  refine ⟨tokens, stop, cut, kinds.trans ?_⟩
  simp [Grammar.Phrase.comparing, Grammar.Phrase.tokens]

theorem exists_means_of_compileFresh (standard : compiler.lexer = .standard)
    (isFirst : IsOperand (compiler.scope context) first firstPhrase)
    (isSecond : IsOperand (compiler.scope context) second secondPhrase)
    (compiles : compiler.compileFresh context (comparisonText first relation second) =
      .ok compiled) :
    ∃ meaning, (Grammar.Phrase.relation firstPhrase relation .zero secondPhrase).Means
        (compiler.scope context) meaning ∧
      max firstPhrase.depth secondPhrase.depth ≤ compiler.config.maxDepth ∧
      (∃ references, References.ofExpr meaning = .ok references) ∧
      compiled.predicate = .ofExpr context compiler.config.caseSensitive meaning := by
  rcases exists_tokens isFirst isSecond relation with ⟨inner, stop, cut, kinds⟩
  rcases bind_eq_ok.mp compiles with ⟨tokens, tokenized, continued⟩
  rcases bind_eq_ok.mp continued with ⟨expr, read, further⟩
  rcases bind_eq_ok.mp further with ⟨references, referred, finished⟩
  rw [standard, cut] at tokenized
  cases tokenized
  cases finished
  rcases Grammar.exists_means_of_ofTokens kinds read with ⟨meaning, means, shallow, _, same⟩
  refine ⟨meaning, Grammar.comparing_means_iff.mp means, shallow, ⟨references, ?_⟩, ?_⟩
  · rw [← References.ofExpr_of_sameButPlaces same, referred]
  · rw [Predicate.ofExpr, Predicate.ofExpr, Node.ofExpr_of_sameButPlaces same]

theorem exists_compileFresh_of_means (standard : compiler.lexer = .standard)
    (isFirst : IsOperand (compiler.scope context) first firstPhrase)
    (isSecond : IsOperand (compiler.scope context) second secondPhrase) {meaning : Expr}
    (means : (Grammar.Phrase.relation firstPhrase relation .zero secondPhrase).Means
      (compiler.scope context) meaning)
    (shallow : max firstPhrase.depth secondPhrase.depth ≤ compiler.config.maxDepth)
    (referred : ∃ references, References.ofExpr meaning = .ok references) :
    ∃ compiled, compiler.compileFresh context (comparisonText first relation second) =
      .ok compiled := by
  rcases exists_tokens isFirst isSecond relation with ⟨inner, stop, cut, kinds⟩
  rcases referred with ⟨references, referred⟩
  have isBool : meaning.type = .bool := by cases means <;> rfl
  rcases Grammar.exists_ofTokens_of_means kinds stop (Grammar.comparing_means_iff.mpr means) shallow
    isBool with ⟨expr, read, same⟩
  rw [← References.ofExpr_of_sameButPlaces same] at referred
  rw [← standard] at cut
  exact ⟨_, bind_eq_ok.mpr ⟨_, cut, bind_eq_ok.mpr ⟨expr, read, bind_eq_ok.mpr
    ⟨references, referred, rfl⟩⟩⟩⟩

theorem exists_compileFresh_converse (standard : compiler.lexer = .standard)
    (isFirst : IsOperand (compiler.scope context) first firstPhrase)
    (isSecond : IsOperand (compiler.scope context) second secondPhrase)
    (compiles : ∃ compiled, compiler.compileFresh context (comparisonText first relation second) =
      .ok compiled) :
    ∃ turned, compiler.compileFresh context (comparisonText second relation.converse first) =
      .ok turned := by
  rcases compiles with ⟨compiled, compiles⟩
  rcases exists_means_of_compileFresh standard isFirst isSecond compiles with
    ⟨meaning, means, shallow, referred, _⟩
  rcases means.converse isFirst.plain isSecond.plain .zero with
    ⟨left, right, type, otherType, rfl, otherMeans⟩
  rw [Nat.max_comm] at shallow
  exact exists_compileFresh_of_means standard isSecond isFirst otherMeans shallow
    (References.exists_ofExpr_converse.mp referred)

theorem byteLength_comparisonText (first second : String) (relation : Relation) :
    Text.byteLength (comparisonText second relation.converse first).toList =
      Text.byteLength (comparisonText first relation second).toList := by
  have sameLength : Text.byteLength relation.converse.text.toList =
      Text.byteLength relation.text.toList := by
    cases relation <;> decide
  simp only [comparisonText, String.toList_append, Text.byteLength_append, sameLength]
  omega

/-! ## Compiled conditions -/

theorem exists_compile_converse (standard : compiler.lexer = .standard)
    (isFirst : IsOperand (compiler.scope context) first firstPhrase)
    (isSecond : IsOperand (compiler.scope context) second secondPhrase)
    (current : compiler.IsCurrent context (comparisonText first relation second))
    (compiles : ∃ compiled,
      (compiler.compile context (comparisonText first relation second)).1 = .ok compiled) :
    ∃ turned, (compiler.compile context (comparisonText second relation.converse first)).1 =
      .ok turned := by
  rcases compiles with ⟨compiled, compiles⟩
  rcases current.exists_compileFresh compiles with ⟨short, fresh, succeeds, _⟩
  rcases exists_compileFresh_converse standard isFirst isSecond ⟨fresh, succeeds⟩ with
    ⟨turned, turns⟩
  refine exists_compile_of_compileFresh ?_ turns
  rwa [byteLength_comparisonText]

/-- Comparisons mean the same written either way round, where no call fails or depends on the
time, and where an equality does not tell its sides apart. -/
theorem compile_converse (schema : Schema) (standard : compiler.lexer = .standard)
    (isFirst : IsOperand (compiler.scope context) first firstPhrase)
    (isSecond : IsOperand (compiler.scope context) second secondPhrase) (relation : Relation)
    (current : compiler.IsCurrent context (comparisonText first relation second))
    (otherCurrent : compiler.IsCurrent context (comparisonText second relation.converse first)) :
    ((∃ compiled,
        (compiler.compile context (comparisonText first relation second)).1 = .ok compiled) ↔
      ∃ turned,
        (compiler.compile context (comparisonText second relation.converse first)).1 =
          .ok turned) ∧
    ∀ compiled turned,
      (compiler.compile context (comparisonText first relation second)).1 = .ok compiled →
      (compiler.compile context (comparisonText second relation.converse first)).1 = .ok turned →
      ∀ record : Record, record.Built schema → record.type = context →
      ∀ clock otherClock : Clock,
      (∀ call ∈ (compiled.predicate.evaluate clock record).calls, call.function.IsPure ∧
        ∀ moment fault, ¬ call.Fails moment fault) →
      ¬ compiled.predicate.root.IsLopsided ⟨record, clock, compiled.predicate.caseSensitive⟩ →
      ∃ holds, (compiled.predicate.evaluate clock record).outcome = .ok holds ∧
        (turned.predicate.evaluate otherClock record).outcome = .ok holds := by
  constructor
  case left =>
    refine ⟨exists_compile_converse standard isFirst isSecond current, ?_⟩
    have back := exists_compile_converse standard isSecond isFirst otherCurrent
    rwa [Relation.converse_converse] at back
  case right =>
    intro compiled turned compiles turns record built ofContext clock otherClock wellBehaved even
    rcases current.exists_compileFresh compiles with ⟨_, fresh, succeeds, same⟩
    rcases otherCurrent.exists_compileFresh turns with ⟨_, otherFresh, otherSucceeds, otherSame⟩
    rcases exists_means_of_compileFresh standard isFirst isSecond succeeds with
      ⟨meaning, means, _, _, isPredicate⟩
    rcases exists_means_of_compileFresh standard isSecond isFirst otherSucceeds with
      ⟨otherMeaning, otherMeans, _, _, isOtherPredicate⟩
    have samePredicate : fresh.predicate = compiled.predicate := congrArg (·.2.1) same
    have sameOther : otherFresh.predicate = turned.predicate := congrArg (·.2.1) otherSame
    rcases means.converse isFirst.plain isSecond.plain .zero with
      ⟨left, right, type, otherType, rfl, turnedMeans⟩
    -- The two readings of the text turned round are one.
    rcases (Grammar.comparing_means_iff.mpr otherMeans).unique
      (Grammar.comparing_means_iff.mpr turnedMeans) with rfl
    rw [← samePredicate, isPredicate] at wellBehaved even ⊢
    rw [← sameOther, isOtherPredicate]
    rw [Predicate.evaluate_ofExpr ofContext] at wellBehaved ⊢
    rw [Predicate.evaluate_ofExpr ofContext]
    exact Node.exists_outcome_test_converse built ofContext means.checked turnedMeans.checked
      wellBehaved even otherClock

/-- The first of the two conditions is one that the compiler keeps. -/
theorem compile_converse_homeless :
    ∃ used compiled turned, used = (standard.compile .person "Name == Home.City").2 ∧
      used.cached? ⟨2, "Name == Home.City"⟩ = some compiled ∧
      (used.compile .person "Name == Home.City").1 = .ok compiled ∧
      (used.compile .person "Home.City == Name").1 = .ok turned ∧
      ∃ holds, (compiled.predicate.evaluate (.stopped (.midnight ⟨2024, 1, 1, by decide⟩))
          (.homeless 20 "Ada")).outcome = .ok holds ∧
        (turned.predicate.evaluate (.stopped (.midnight ⟨2025, 1, 1, by decide⟩))
          (.homeless 20 "Ada")).outcome = .ok holds := by
  -- Unfolding nothing but the compiler: the rules of its lexer are too large to unfold.
  have isStandard : standard.lexer = .standard := by dsimp only [standard]
  have empty : standard.cache = [] := by dsimp only [standard]
  have caching : standard.isCaching = true := by dsimp only [isCaching, standard]; decide
  have known : ObjectType.person ∈ Schema.people.types := List.mem_cons_self ..
  have isOver : Over .people [.compile .person "Name == Home.City"] := by
    intro context source member
    cases List.mem_singleton.mp member
    exact known
  have noRegistration : ∀ function, Step.register function ∉
      [.compile .person "Name == Home.City"] := by
    intro function member
    cases List.mem_singleton.mp member
  have current := isCurrent_after empty isOver noRegistration known
  rw [after_cons, after_nil, Compiler.step] at current
  have intact : ¬ standard.Clears (.compile .person "Name == Home.City") := id
  have usedStandard := (sameRules_step intact).lexer.trans isStandard
  rw [Compiler.step] at usedStandard
  let used := (standard.compile .person "Name == Home.City").2
  rcases exists_isOperand_of_areName (used.scope .person) (by decide +kernel :
    (Lexer.standard.tokenize "Name" false).toOption.any (Token.areName "Name") = true) with
    ⟨_, isFirst⟩
  rcases exists_isOperand_of_areName (used.scope .person) (by decide +kernel :
    (Lexer.standard.tokenize "Home.City" false).toOption.any (Token.areName "Home.City") = true)
    with ⟨_, isSecond⟩
  have converse := compile_converse .people usedStandard isFirst isSecond .equal (current _)
    (current _)
  rw [show comparisonText "Name" .equal "Home.City" = "Name == Home.City" by decide,
    show comparisonText "Home.City" Relation.equal.converse "Name" = "Home.City == Name"
      by decide] at converse
  have accepts : (standard.compile .person "Name == Home.City").1.toOption.any (fun compiled =>
      compiled.predicate.root.equates [1] [2, 0] &&
        ObjectType.person.id == compiled.predicate.context.id) = true := by
    decide +kernel
  rcases exists_eq_ok_of_any accepts with ⟨compiled, accepted, checked⟩
  rw [Bool.and_eq_true] at checked
  have isRoot := Node.eq_of_equates checked.1
  have ofContext : (Record.homeless 20 "Ada").type.id = compiled.predicate.context.id :=
    beq_iff_eq.mp checked.2
  have kept := (cached?_of_compile caching accepted).2
  have noneClears : (standard.compile .person "Name == Home.City").2.NeverClears [] := trivial
  have again := compile_again caching accepted noneClears
  rw [after_nil] at again
  rcases converse.1.mp ⟨compiled, again⟩ with ⟨turned, turns⟩
  refine ⟨_, compiled, turned, rfl, kept, again, turns,
    converse.2 compiled turned again turns _ (Record.built_homeless 20 "Ada") rfl _ _ ?_ ?_⟩
  · rw [Predicate.evaluate, if_pos ofContext, isRoot]
    rintro _ ⟨⟩
  · rintro ⟨_, _, _, _, target, isNode, _, _, rightValue, _, _, present⟩
    rw [isRoot] at isNode
    cases isNode
    cases rightValue
    cases present

/-- Data of a record acts as the wildcard where it is the target. -/
theorem compile_converse_differs :
    ∃ compiled turned, (standard.compile .person "Name == \"Ada\"").1 = .ok compiled ∧
      (standard.compile .person "\"Ada\" == Name").1 = .ok turned ∧
      (compiled.predicate.evaluate (.stopped (.midnight ⟨2024, 1, 1, by decide⟩))
        (.homeless 20 "*")).outcome = .ok false ∧
      (turned.predicate.evaluate (.stopped (.midnight ⟨2024, 1, 1, by decide⟩))
        (.homeless 20 "*")).outcome = .ok true := by
  let clock : Clock := .stopped (.midnight ⟨2024, 1, 1, by decide⟩)
  have judged {compiled : Compiled} {holds : Bool}
      (isJudged : ((compiled.predicate.evaluate clock (.homeless 20 "*")).outcome.toOption ==
        some holds) = true) :
      (compiled.predicate.evaluate clock (.homeless 20 "*")).outcome = .ok holds := by
    cases outcome : (compiled.predicate.evaluate clock (.homeless 20 "*")).outcome with
    | ok value =>
      rw [outcome] at isJudged
      exact congrArg Except.ok (Option.some.inj (beq_iff_eq.mp isJudged))
    | error fault =>
      rw [outcome] at isJudged
      cases isJudged
  have accepts : (standard.compile .person "Name == \"Ada\"").1.toOption.any (fun compiled =>
      (compiled.predicate.evaluate clock (.homeless 20 "*")).outcome.toOption ==
        some false) = true := by
    decide +kernel
  have acceptsTurned : (standard.compile .person "\"Ada\" == Name").1.toOption.any (fun compiled =>
      (compiled.predicate.evaluate clock (.homeless 20 "*")).outcome.toOption ==
        some true) = true := by
    decide +kernel
  rcases exists_eq_ok_of_any accepts with ⟨compiled, accepted, fails⟩
  rcases exists_eq_ok_of_any acceptsTurned with ⟨turned, turns, holds⟩
  exact ⟨compiled, turned, accepted, turns, judged fails, judged holds⟩

end Compiler

end Proviso
