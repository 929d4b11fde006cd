import Proviso.Proofs.Grammar.Phrase
import Proviso.Proofs.Outcome

/-!
What the rules of the reader accept are phrases of the grammar that mean what the rules answer.
The rules of one level are sound if those of the next are, so that the number of levels bounds
the depth of the phrases.
-/

namespace Proviso.Grammar

open Outcome

variable {scope : Scope} {stop : Span}

/-! ## Names and calls -/

theorem nameMeans_of_resolveName {path : String} {span : Span} {expr : Expr}
    (resolved : scope.resolveName path span = .ok expr) : NameMeans scope path span expr := by
  rw [Scope.resolveName] at resolved
  cases found : scope.context.resolve false (Text.segments path) with
  | ok result =>
    rcases result with ⟨slots, type⟩
    simp only [found, Except.ok.injEq] at resolved
    exact resolved ▸ .property found
  | error segment =>
    simp only [found, Scope.constant?] at resolved
    cases constant : scope.context.constant? path with
    | some value =>
      simp only [constant, Except.ok.injEq] at resolved
      exact resolved ▸ .constant found constant
    | none =>
      cases member : scope.enumMember? path with
      | some value =>
        simp only [constant, member, Option.map_some, Except.ok.injEq] at resolved
        exact resolved ▸ .member found constant member
      | none => simp [constant, member] at resolved

theorem resolve_of_resolveCall {name : String} {arguments : List Expr} {span : Span}
    {expr : Expr} (resolved : scope.resolveCall name arguments span = .ok expr) :
    ∃ function, scope.library.resolve name (arguments.map (·.type)) = some function ∧
      expr = .call function arguments span := by
  simp only [Scope.resolveCall] at resolved
  split at resolved
  case h_1 function found => exact ⟨function, found, (Except.ok.inj resolved).symm⟩
  case h_2 => split at resolved <;> cases resolved

theorem requireBoolean_eq_ok {role : BooleanRole} {expr : Expr} :
    expr.requireBoolean role = .ok () ↔ expr.type = .bool := by
  unfold Expr.requireBoolean
  split <;> simp_all

theorem ofComparison_eq_ok {relation : Relation} {left right expr : Expr} :
    Expr.ofComparison relation left right = .ok expr ↔
      ∃ type, Expr.operandType relation left right = .ok type ∧
        expr = if type.isOf .datetime then .relational relation left.withDate right.withDate type
          else .relational relation left right type := by
  simp only [Expr.ofComparison, bind_eq_ok]
  refine exists_congr fun type => and_congr_right fun _ => ?_
  split <;> exact pure_eq_ok.trans eq_comm

/-! ## Phrases in front of tokens -/

/-- That tokens up to a rest are spelled by a phrase of less than a depth, and what it means. -/
def Spelled (scope : Scope) (category : Category) (bound : Nat) (tokens rest : List Token)
    (meaning : category.Meaning) : Prop :=
  ∃ phrase : Phrase category, phrase.tokens ++ rest = tokens ∧ phrase.depth < bound ∧
    phrase.Means scope meaning

theorem append_joint {left right middle rest tokens : List Token} {joint : Token}
    (leftEqual : left ++ joint :: middle = tokens) (rightEqual : right ++ rest = middle) :
    (left ++ joint :: right) ++ rest = tokens := by
  rw [List.append_assoc, List.cons_append, rightEqual, leftEqual]

namespace Spelled

variable {bound : Nat} {tokens middle rest : List Token} {left right expr : Expr}
  {start place close : Span} {callee : String} {function : Function} {exprs : List Expr}

theorem literal {kind : TokenKind} {value : Scalar} (denotes : literal? kind = some value)
    (span : Span) (rest : List Token) :
    Spelled scope .value (bound + 1) (⟨kind, span⟩ :: rest) rest (.literal value span) :=
  ⟨.literal kind value denotes span, rfl, Nat.succ_pos bound, .literal⟩

theorem name {path : String} (means : NameMeans scope path place expr) (rest : List Token) :
    Spelled scope .value (bound + 1) (⟨.identifier path, place⟩ :: rest) rest expr :=
  ⟨.name path place, rfl, Nat.succ_pos bound, .name means⟩

theorem group (spelled : Spelled scope .disjunction bound tokens
      (⟨.rightParenthesis, close⟩ :: rest) expr) :
    Spelled scope .value (bound + 1) (⟨.leftParenthesis, start⟩ :: tokens) rest expr := by
  rcases spelled with ⟨phrase, equal, depth, means⟩
  exact ⟨.group start phrase close, congrArg (List.cons _) (append_joint equal rfl),
    Nat.succ_lt_succ depth, .group means⟩

theorem emptyCall (resolved : scope.library.resolve callee [] = some function) :
    Spelled scope .value (bound + 2)
      (⟨.functionOpen callee, start⟩ :: ⟨.rightParenthesis, close⟩ :: rest) rest
      (.call function [] (start.merge close)) :=
  ⟨.emptyCall callee start close, rfl, Nat.lt_add_left bound (Nat.lt_succ_self 1),
    .emptyCall resolved⟩

theorem call (spelled : Spelled scope .arguments bound tokens
      (⟨.rightParenthesis, close⟩ :: rest) exprs)
    (resolved : scope.library.resolve callee (exprs.map (·.type)) = some function) :
    Spelled scope .value (bound + 1) (⟨.functionOpen callee, start⟩ :: tokens) rest
      (.call function exprs (start.merge close)) := by
  rcases spelled with ⟨phrase, equal, depth, means⟩
  exact ⟨.call callee start phrase close, congrArg (List.cons _) (append_joint equal rfl),
    Nat.succ_lt_succ depth, .call means resolved⟩

theorem single (spelled : Spelled scope .value bound tokens rest expr) :
    Spelled scope .comparison bound tokens rest expr := by
  rcases spelled with ⟨phrase, equal, depth, means⟩
  exact ⟨.single phrase, equal, depth, .single means⟩

theorem relation {symbol : Relation}
    (leftSpelled : Spelled scope .value bound tokens (⟨.relation symbol, place⟩ :: middle) left)
    (rightSpelled : Spelled scope .value bound middle rest right)
    (checked : Expr.ofComparison symbol left right = .ok expr) :
    Spelled scope .comparison bound tokens rest expr := by
  rcases leftSpelled with ⟨leftPhrase, leftEqual, leftDepth, leftMeans⟩
  rcases rightSpelled with ⟨rightPhrase, rightEqual, rightDepth, rightMeans⟩
  rcases ofComparison_eq_ok.mp checked with ⟨type, consistent, rfl⟩
  refine ⟨.relation leftPhrase symbol place rightPhrase, ?_, ?_, ?_⟩
  · exact append_joint leftEqual rightEqual
  · exact Nat.max_lt.mpr ⟨leftDepth, rightDepth⟩
  · split
    case isTrue moments =>
      exact .relationOfMoments leftMeans rightMeans consistent moments (dated_withDate left)
        (dated_withDate right)
    case isFalse noMoments =>
      exact .relation leftMeans rightMeans consistent (Bool.eq_false_iff.mpr noMoments)

theorem plain (spelled : Spelled scope .comparison bound tokens rest expr) :
    Spelled scope .negation bound tokens rest expr := by
  rcases spelled with ⟨phrase, equal, depth, means⟩
  exact ⟨.plain phrase, equal, depth, .plain means⟩

theorem not (spelled : Spelled scope .comparison bound tokens rest expr)
    (isBool : expr.type = .bool) :
    Spelled scope .negation bound (⟨.not, place⟩ :: tokens) rest
      (.not expr (place.merge expr.span)) := by
  rcases spelled with ⟨phrase, equal, depth, means⟩
  exact ⟨.not place phrase, congrArg (List.cons _) equal, depth, .not means isBool⟩

theorem lastConjunct (spelled : Spelled scope .negation bound tokens rest expr) :
    Spelled scope .conjunction bound tokens rest expr := by
  rcases spelled with ⟨phrase, equal, depth, means⟩
  exact ⟨.lastConjunct phrase, equal, depth, .lastConjunct means⟩

theorem and
    (leftSpelled : Spelled scope .negation (bound + 1) tokens (⟨.and, place⟩ :: middle) left)
    (rightSpelled : Spelled scope .conjunction bound middle rest right)
    (leftIsBool : left.type = .bool) (rightIsBool : right.type = .bool) :
    Spelled scope .conjunction (bound + 1) tokens rest (.and left right) := by
  rcases leftSpelled with ⟨leftPhrase, leftEqual, leftDepth, leftMeans⟩
  rcases rightSpelled with ⟨rightPhrase, rightEqual, rightDepth, rightMeans⟩
  exact ⟨.and leftPhrase place rightPhrase, append_joint leftEqual rightEqual,
    Nat.max_lt.mpr ⟨leftDepth, Nat.succ_lt_succ rightDepth⟩,
    .and leftMeans rightMeans leftIsBool rightIsBool⟩

theorem lastDisjunct (spelled : Spelled scope .conjunction bound tokens rest expr) :
    Spelled scope .disjunction bound tokens rest expr := by
  rcases spelled with ⟨phrase, equal, depth, means⟩
  exact ⟨.lastDisjunct phrase, equal, depth, .lastDisjunct means⟩

theorem or
    (leftSpelled : Spelled scope .conjunction (bound + 1) tokens (⟨.or, place⟩ :: middle) left)
    (rightSpelled : Spelled scope .disjunction bound middle rest right)
    (leftIsBool : left.type = .bool) (rightIsBool : right.type = .bool) :
    Spelled scope .disjunction (bound + 1) tokens rest (.or left right) := by
  rcases leftSpelled with ⟨leftPhrase, leftEqual, leftDepth, leftMeans⟩
  rcases rightSpelled with ⟨rightPhrase, rightEqual, rightDepth, rightMeans⟩
  exact ⟨.or leftPhrase place rightPhrase, append_joint leftEqual rightEqual,
    Nat.max_lt.mpr ⟨leftDepth, Nat.succ_lt_succ rightDepth⟩,
    .or leftMeans rightMeans leftIsBool rightIsBool⟩

theorem lastArgument (spelled : Spelled scope .disjunction bound tokens rest expr) :
    Spelled scope .arguments bound tokens rest [expr] := by
  rcases spelled with ⟨phrase, equal, depth, means⟩
  exact ⟨.lastArgument phrase, equal, depth, .lastArgument means⟩

theorem argument
    (firstSpelled : Spelled scope .disjunction bound tokens (⟨.comma, place⟩ :: middle) expr)
    (restSpelled : Spelled scope .arguments bound middle rest exprs) :
    Spelled scope .arguments bound tokens rest (expr :: exprs) := by
  rcases firstSpelled with ⟨firstPhrase, firstEqual, firstDepth, firstMeans⟩
  rcases restSpelled with ⟨restPhrase, restEqual, restDepth, restMeans⟩
  exact ⟨.argument firstPhrase place restPhrase, append_joint firstEqual restEqual,
    Nat.max_lt.mpr ⟨firstDepth, restDepth⟩, .argument firstMeans restMeans⟩

end Spelled

/-! ## Rules -/

/-- What the rules of the next level accept are phrases of less than a number of levels; a call
is given without the name that opens it, which may have all of them. -/
structure SoundBelow (scope : Scope) (deeper : Nested → Rule) (levels : Nat) : Prop where
  disjunction {tokens rest : List Token} {expr : Expr}
    (read : deeper .disjunction tokens = .ok (expr, rest)) :
    Spelled scope .disjunction levels tokens rest expr
  conjunction {tokens rest : List Token} {expr : Expr}
    (read : deeper .conjunction tokens = .ok (expr, rest)) :
    Spelled scope .conjunction levels tokens rest expr
  call {name : String} {start : Span} {tokens rest : List Token} {expr : Expr}
    (read : deeper (.call name start) tokens = .ok (expr, rest)) :
    Spelled scope .value (levels + 1) (⟨.functionOpen name, start⟩ :: tokens) rest expr

section Level

variable {deeper : Nested → Rule} {levels : Nat} {tokens rest : List Token} {expr : Expr}

theorem value_literal {kind : TokenKind} {literal : Scalar}
    (denotes : literal? kind = some literal) (span : Span) (rest : List Token) :
    value scope stop deeper (⟨kind, span⟩ :: rest) = .ok (.literal literal span, rest) := by
  cases kind <;> cases denotes <;> rfl

theorem value_sound (below : SoundBelow scope deeper levels)
    (read : value scope stop deeper tokens = .ok (expr, rest)) :
    Spelled scope .value (levels + 1) tokens rest expr := by
  match tokens with
  | [] => cases read
  | ⟨kind, span⟩ :: following =>
    cases denotes : literal? kind with
    | some literal =>
      rw [value_literal denotes] at read
      cases read
      exact .literal denotes span _
    | none =>
      cases kind with
      | identifier path =>
        rcases map_eq_ok.mp read with ⟨_, resolved, equal⟩
        cases equal
        exact .name (nameMeans_of_resolveName resolved) _
      | functionOpen name => exact below.call read
      | leftParenthesis =>
        rcases bind_eq_ok.mp read with ⟨⟨inner, after⟩, innerRead, closed⟩
        match after, closed with
        | ⟨.rightParenthesis, close⟩ :: after, closed =>
          cases closed
          exact (below.disjunction innerRead).group
      | _ => cases denotes <;> cases read

theorem comparison_sound (below : SoundBelow scope deeper levels)
    (read : comparison scope stop deeper tokens = .ok (expr, rest)) :
    Spelled scope .comparison (levels + 1) tokens rest expr := by
  rcases bind_eq_ok.mp read with ⟨⟨left, after⟩, leftRead, read⟩
  have leftSpelled := value_sound below leftRead
  dsimp only at read
  split at read
  case h_1 symbol place following =>
    rcases bind_eq_ok.mp read with ⟨⟨right, after⟩, rightRead, read⟩
    have rightSpelled := value_sound below rightRead
    dsimp only at read
    split at read
    case h_1 => cases read
    case h_2 =>
      rcases bind_eq_ok.mp read with ⟨_, checked, equal⟩
      cases equal
      exact leftSpelled.relation rightSpelled checked
  case h_2 =>
    cases read
    exact leftSpelled.single

theorem negation_sound (below : SoundBelow scope deeper levels)
    (read : negation scope stop deeper tokens = .ok (expr, rest)) :
    Spelled scope .negation (levels + 1) tokens rest expr := by
  unfold negation at read
  split at read
  case h_1 place following =>
    rcases bind_eq_ok.mp read with ⟨⟨operand, after⟩, operandRead, read⟩
    rcases bind_eq_ok.mp read with ⟨_, isBool, equal⟩
    cases equal
    exact (comparison_sound below operandRead).not (requireBoolean_eq_ok.mp isBool)
  case h_2 => exact (comparison_sound below read).plain

theorem conjunction_sound (below : SoundBelow scope deeper levels)
    (read : conjunction scope stop deeper tokens = .ok (expr, rest)) :
    Spelled scope .conjunction (levels + 1) tokens rest expr := by
  rcases bind_eq_ok.mp read with ⟨⟨left, after⟩, leftRead, read⟩
  have leftSpelled := negation_sound below leftRead
  dsimp only at read
  split at read
  case h_1 place following =>
    rcases bind_eq_ok.mp read with ⟨⟨right, after⟩, rightRead, read⟩
    rcases bind_eq_ok.mp read with ⟨_, leftIsBool, read⟩
    rcases bind_eq_ok.mp read with ⟨_, rightIsBool, equal⟩
    cases equal
    exact leftSpelled.and (below.conjunction rightRead) (requireBoolean_eq_ok.mp leftIsBool)
      (requireBoolean_eq_ok.mp rightIsBool)
  case h_2 =>
    cases read
    exact leftSpelled.lastConjunct

theorem disjunction_sound (below : SoundBelow scope deeper levels)
    (read : disjunction scope stop deeper tokens = .ok (expr, rest)) :
    Spelled scope .disjunction (levels + 1) tokens rest expr := by
  rcases bind_eq_ok.mp read with ⟨⟨left, after⟩, leftRead, read⟩
  have leftSpelled := conjunction_sound below leftRead
  dsimp only at read
  split at read
  case h_1 place following =>
    rcases bind_eq_ok.mp read with ⟨⟨right, after⟩, rightRead, read⟩
    rcases bind_eq_ok.mp read with ⟨_, leftIsBool, read⟩
    rcases bind_eq_ok.mp read with ⟨_, rightIsBool, equal⟩
    cases equal
    exact leftSpelled.or (below.disjunction rightRead) (requireBoolean_eq_ok.mp leftIsBool)
      (requireBoolean_eq_ok.mp rightIsBool)
  case h_2 =>
    cases read
    exact leftSpelled.lastDisjunct

theorem arguments_sound (below : SoundBelow scope deeper levels) {fuel : Nat}
    {exprs : List Expr} {close : Span}
    (read : arguments scope stop deeper fuel tokens = .ok (exprs, close, rest)) :
    Spelled scope .arguments (levels + 1) tokens (⟨.rightParenthesis, close⟩ :: rest) exprs := by
  induction fuel generalizing tokens exprs with
  | zero => cases read
  | succ fuel induction =>
    rcases bind_eq_ok.mp read with ⟨⟨first, after⟩, firstRead, read⟩
    have firstSpelled := disjunction_sound below firstRead
    dsimp only at read
    split at read
    case h_1 place following =>
      rcases bind_eq_ok.mp read with ⟨⟨others, close, after⟩, othersRead, equal⟩
      cases equal
      exact firstSpelled.argument (induction othersRead)
    case h_2 close following =>
      cases read
      exact firstSpelled.lastArgument
    case h_3 => cases read

theorem call_sound (below : SoundBelow scope deeper levels) {name : String} {start : Span}
    (read : call scope stop deeper name start tokens = .ok (expr, rest)) :
    Spelled scope .value (levels + 2) (⟨.functionOpen name, start⟩ :: tokens) rest expr := by
  unfold call at read
  split at read
  case h_1 close following =>
    rcases map_eq_ok.mp read with ⟨_, resolved, equal⟩
    cases equal
    rcases resolve_of_resolveCall resolved with ⟨function, found, rfl⟩
    exact .emptyCall found
  case h_2 =>
    rcases bind_eq_ok.mp read with ⟨⟨exprs, close, after⟩, argumentsRead, read⟩
    rcases bind_eq_ok.mp read with ⟨_, resolved, equal⟩
    cases equal
    rcases resolve_of_resolveCall resolved with ⟨function, found, rfl⟩
    exact (arguments_sound below argumentsRead).call found

end Level

/-! ## Levels -/

theorem nested_sound (levels : Nat) :
    SoundBelow scope (nested scope stop levels) levels := by
  induction levels with
  | zero => exact ⟨nofun, nofun, nofun⟩
  | succ levels induction =>
    exact ⟨disjunction_sound induction, conjunction_sound induction, call_sound induction⟩

end Proviso.Grammar
