import Proviso.Expr.Grammar

/-!
The grammar of conditions apart from the reader of tokens. A phrase is a derivation: it spells
tokens, it is nested to some depth, and in a scope it may mean an expression. It means one if
its names and calls resolve, its comparisons are consistent and its operands are booleans where
they must be.
-/

namespace Proviso.Grammar

inductive Category where
  | value
  | comparison
  | negation
  | conjunction
  | disjunction
  | arguments

def literal? : TokenKind → Option Scalar
  | .null => some .null
  | .integer value => some (.int value)
  | .float value => some (.float value)
  | .boolean value => some (.bool value)
  | .string value => some (.string value)
  | _ => none

inductive Phrase : Category → Type where
  | literal (kind : TokenKind) (value : Scalar) (denotes : literal? kind = some value)
      (span : Span) : Phrase .value
  | name (path : String) (span : Span) : Phrase .value
  | emptyCall (callee : String) (start close : Span) : Phrase .value
  | call (callee : String) (start : Span) (arguments : Phrase .arguments) (close : Span) :
      Phrase .value
  | group (start : Span) (inner : Phrase .disjunction) (close : Span) : Phrase .value
  | single (value : Phrase .value) : Phrase .comparison
  | relation (left : Phrase .value) (symbol : Relation) (place : Span)
      (right : Phrase .value) : Phrase .comparison
  | plain (operand : Phrase .comparison) : Phrase .negation
  | not (place : Span) (operand : Phrase .comparison) : Phrase .negation
  | lastConjunct (operand : Phrase .negation) : Phrase .conjunction
  | and (left : Phrase .negation) (place : Span) (right : Phrase .conjunction) :
      Phrase .conjunction
  | lastDisjunct (operand : Phrase .conjunction) : Phrase .disjunction
  | or (left : Phrase .conjunction) (place : Span) (right : Phrase .disjunction) :
      Phrase .disjunction
  | lastArgument (last : Phrase .disjunction) : Phrase .arguments
  | argument (first : Phrase .disjunction) (place : Span) (rest : Phrase .arguments) :
      Phrase .arguments

namespace Phrase

def tokens : {category : Category} → Phrase category → List Token
  | _, .literal kind _ _ span => [⟨kind, span⟩]
  | _, .name path span => [⟨.identifier path, span⟩]
  | _, .emptyCall callee start close =>
    [⟨.functionOpen callee, start⟩, ⟨.rightParenthesis, close⟩]
  | _, .call callee start arguments close =>
    ⟨.functionOpen callee, start⟩ :: (arguments.tokens ++ [⟨.rightParenthesis, close⟩])
  | _, .group start inner close =>
    ⟨.leftParenthesis, start⟩ :: (inner.tokens ++ [⟨.rightParenthesis, close⟩])
  | _, .single value => value.tokens
  | _, .relation left symbol place right =>
    left.tokens ++ ⟨.relation symbol, place⟩ :: right.tokens
  | _, .plain operand => operand.tokens
  | _, .not place operand => ⟨.not, place⟩ :: operand.tokens
  | _, .lastConjunct operand => operand.tokens
  | _, .and left place right => left.tokens ++ ⟨.and, place⟩ :: right.tokens
  | _, .lastDisjunct operand => operand.tokens
  | _, .or left place right => left.tokens ++ ⟨.or, place⟩ :: right.tokens
  | _, .lastArgument last => last.tokens
  | _, .argument first place rest => first.tokens ++ ⟨.comma, place⟩ :: rest.tokens

/-- How deeply groups, calls and right operands of `&&` and `||` are nested. -/
def depth : {category : Category} → Phrase category → Nat
  | _, .literal .. => 0
  | _, .name .. => 0
  | _, .emptyCall .. => 1
  | _, .call _ _ arguments _ => arguments.depth + 1
  | _, .group _ inner _ => inner.depth + 1
  | _, .single value => value.depth
  | _, .relation left _ _ right => max left.depth right.depth
  | _, .plain operand => operand.depth
  | _, .not _ operand => operand.depth
  | _, .lastConjunct operand => operand.depth
  | _, .and left _ right => max left.depth (right.depth + 1)
  | _, .lastDisjunct operand => operand.depth
  | _, .or left _ right => max left.depth (right.depth + 1)
  | _, .lastArgument last => last.depth
  | _, .argument first _ rest => max first.depth rest.depth

end Phrase

/-! ## Meaning -/

/-- What a name means: a property first, then a constant of the context type, then a member of
an enumeration. -/
inductive NameMeans (scope : Scope) (path : String) (span : Span) : Expr → Prop where
  | property {slots : List Nat} {type : Ty}
      (found : scope.context.resolve false (Text.segments path) = .ok (slots, type)) :
      NameMeans scope path span (.property path slots type span)
  | constant {segment : String} {value : Scalar}
      (noProperty : scope.context.resolve false (Text.segments path) = .error segment)
      (found : scope.context.constant? path = some value) :
      NameMeans scope path span (.constant path value span)
  | member {segment : String} {value : EnumValue}
      (noProperty : scope.context.resolve false (Text.segments path) = .error segment)
      (noConstant : scope.context.constant? path = none)
      (found : scope.enumMember? path = some value) :
      NameMeans scope path span (.constant path (.enum value) span)

/-- What a side becomes in a comparison of moments: a text literal that says a date becomes the
moment it says. The wildcard says none. -/
inductive Dated : Expr → Expr → Prop where
  | date {text : String} {moment : Calendar.Moment} {span : Span} (notWildcard : text ≠ wildcard)
      (reads : Calendar.readMoment? text.toList = some moment) :
      Dated (.literal (.string text) span) (.literal (.datetime moment) span)
  | wildcard {span : Span} :
      Dated (.literal (.string wildcard) span) (.literal (.string wildcard) span)
  | noDate {text : String} {span : Span} (reads : Calendar.readMoment? text.toList = none) :
      Dated (.literal (.string text) span) (.literal (.string text) span)
  | noText {expr : Expr} (other : ∀ text span, expr ≠ .literal (.string text) span) :
      Dated expr expr

theorem withDate_of_moment {text : String} {moment : Calendar.Moment}
    (notWildcard : text ≠ wildcard) (reads : Calendar.readMoment? text.toList = some moment)
    (span : Span) :
    (Expr.literal (.string text) span).withDate = .literal (.datetime moment) span := by
  simp [Expr.withDate, Expr.dateLiteral?, Expr.stringLiteral?, notWildcard, reads, Expr.span]

theorem withDate_of_noMoment {text : String} (reads : Calendar.readMoment? text.toList = none)
    (span : Span) : (Expr.literal (.string text) span).withDate = .literal (.string text) span := by
  simp [Expr.withDate, Expr.dateLiteral?, Expr.stringLiteral?, reads]

theorem dated_withDate (expr : Expr) : Dated expr expr.withDate := by
  cases expr with
  | literal value span =>
    cases value with
    | string text =>
      by_cases isWildcard : text = wildcard
      · subst isWildcard
        exact .wildcard
      · cases reads : Calendar.readMoment? text.toList with
        | some moment =>
          rw [withDate_of_moment isWildcard reads]
          exact .date isWildcard reads
        | none =>
          rw [withDate_of_noMoment reads]
          exact .noDate reads
    | _ => exact .noText nofun
  | _ => exact .noText nofun

theorem Dated.eq_withDate {expr dated : Expr} (isDated : Dated expr dated) :
    dated = expr.withDate := by
  cases isDated with
  | date notWildcard reads => exact (withDate_of_moment notWildcard reads _).symm
  | wildcard => rfl
  | noDate reads => exact (withDate_of_noMoment reads _).symm
  | noText other =>
    cases expr with
    | literal value span =>
      cases value with
      | string text => exact absurd rfl (other text span)
      | _ => rfl
    | _ => rfl

@[reducible] def Category.Meaning : Category → Type
  | .arguments => List Expr
  | _ => Expr

inductive Phrase.Means (scope : Scope) :
    {category : Category} → Phrase category → category.Meaning → Prop where
  | literal {kind : TokenKind} {value : Scalar} {denotes : literal? kind = some value}
      {span : Span} : Means scope (.literal kind value denotes span) (.literal value span)
  | name {path : String} {span : Span} {expr : Expr} (means : NameMeans scope path span expr) :
      Means scope (.name path span) expr
  | emptyCall {callee : String} {start close : Span} {function : Function}
      (resolved : scope.library.resolve callee [] = some function) :
      Means scope (.emptyCall callee start close) (.call function [] (start.merge close))
  | call {callee : String} {start close : Span} {arguments : Phrase .arguments}
      {exprs : List Expr} {function : Function} (means : Means scope arguments exprs)
      (resolved : scope.library.resolve callee (exprs.map (·.type)) = some function) :
      Means scope (.call callee start arguments close) (.call function exprs (start.merge close))
  | group {start close : Span} {inner : Phrase .disjunction} {expr : Expr}
      (means : Means scope inner expr) : Means scope (.group start inner close) expr
  | single {value : Phrase .value} {expr : Expr} (means : Means scope value expr) :
      Means scope (.single value) expr
  | relation {first second : Phrase .value} {symbol : Relation} {place : Span}
      {left right : Expr} {type : Ty} (firstMeans : Means scope first left)
      (secondMeans : Means scope second right)
      (consistent : Expr.operandType symbol left right = .ok type)
      (noMoments : type.isOf .datetime = false) :
      Means scope (.relation first symbol place second) (.relational symbol left right type)
  | relationOfMoments {first second : Phrase .value} {symbol : Relation} {place : Span}
      {left right leftDated rightDated : Expr} {type : Ty} (firstMeans : Means scope first left)
      (secondMeans : Means scope second right)
      (consistent : Expr.operandType symbol left right = .ok type)
      (moments : type.isOf .datetime = true) (leftIsDated : Dated left leftDated)
      (rightIsDated : Dated right rightDated) :
      Means scope (.relation first symbol place second)
        (.relational symbol leftDated rightDated type)
  | plain {operand : Phrase .comparison} {expr : Expr} (means : Means scope operand expr) :
      Means scope (.plain operand) expr
  | not {place : Span} {operand : Phrase .comparison} {expr : Expr}
      (means : Means scope operand expr) (isBool : expr.type = .bool) :
      Means scope (.not place operand) (.not expr (place.merge expr.span))
  | lastConjunct {operand : Phrase .negation} {expr : Expr} (means : Means scope operand expr) :
      Means scope (.lastConjunct operand) expr
  | and {first : Phrase .negation} {place : Span} {second : Phrase .conjunction}
      {left right : Expr} (firstMeans : Means scope first left)
      (secondMeans : Means scope second right) (leftIsBool : left.type = .bool)
      (rightIsBool : right.type = .bool) : Means scope (.and first place second) (.and left right)
  | lastDisjunct {operand : Phrase .conjunction} {expr : Expr}
      (means : Means scope operand expr) : Means scope (.lastDisjunct operand) expr
  | or {first : Phrase .conjunction} {place : Span} {second : Phrase .disjunction}
      {left right : Expr} (firstMeans : Means scope first left)
      (secondMeans : Means scope second right) (leftIsBool : left.type = .bool)
      (rightIsBool : right.type = .bool) : Means scope (.or first place second) (.or left right)
  | lastArgument {last : Phrase .disjunction} {expr : Expr}
      (means : Means scope last expr) : Means scope (.lastArgument last) [expr]
  | argument {first : Phrase .disjunction} {place : Span} {rest : Phrase .arguments}
      {expr : Expr} {exprs : List Expr} (firstMeans : Means scope first expr)
      (restMeans : Means scope rest exprs) :
      Means scope (.argument first place rest) (expr :: exprs)

end Proviso.Grammar
