import Proviso.Expr.Scope
import Proviso.Expr.Typing

/-!
Reading conditions from tokens. A condition is a disjunction of conjunctions of comparisons,
each of which may be negated once; a comparison relates at most two values, and a value is a
literal, a name, a call, or a condition in parentheses.

Groups, calls and right operands of `&&` and `||` are nested one level deeper than what they
stand in. The rules are therefore written for one level, given the rules of the next, and the
number of levels that are left decides how deep a condition can go.
-/

namespace Proviso

/-- What a condition is read from: tokens, none of which is the end, and the end's place. -/
structure TokenStream where
  tokens : List Token
  stop : Span

namespace TokenStream

/-- The stream up to the first token for the end; without one the stream ends with its last
token. -/
def ofTokens (tokens : List Token) : TokenStream :=
  match tokens.find? (·.kind.isEnd) with
  | some token => ⟨tokens.takeWhile (!·.kind.isEnd), token.span⟩
  | none =>
    let position := (tokens.getLast?.map (·.span.stop.toNat)).getD 0
    ⟨tokens, Span.point position⟩

end TokenStream

namespace Grammar

abbrev Rule := List Token → Except Fault (Expr × List Token)

inductive Nested where
  | disjunction
  | conjunction
  | call (name : String) (start : Span)

def next (stop : Span) (tokens : List Token) : Token :=
  tokens.head?.getD ⟨.endOfInput, stop⟩

def unexpected (token : Token) : Fault :=
  .grammar (.unexpectedToken token.kind) token.span

/-! ## The rules of one level -/

section Level

variable (scope : Scope) (stop : Span) (deeper : Nested → Rule)

def value : Rule
  | [] => .error (.grammar .missingValue stop)
  | ⟨kind, span⟩ :: rest =>
    match kind with
    | .null => .ok (.literal .null span, rest)
    | .integer value => .ok (.literal (.int value) span, rest)
    | .float value => .ok (.literal (.float value) span, rest)
    | .boolean value => .ok (.literal (.bool value) span, rest)
    | .string value => .ok (.literal (.string value) span, rest)
    | .identifier path => (scope.resolveName path span).map fun expr => (expr, rest)
    | .functionOpen name => deeper (.call name span) rest
    | .leftParenthesis => do
      let (inner, rest) ← deeper .disjunction rest
      match rest with
      | ⟨.rightParenthesis, _⟩ :: rest => pure (inner, rest)
      | rest =>
        let found := next stop rest
        throw (.grammar (.unclosedGroup found.kind) found.span)
    | _ => .error (unexpected ⟨kind, span⟩)

/-- A value, or a comparison of two; a third value cannot follow. -/
def comparison : Rule := fun tokens => do
  let (left, rest) ← value scope stop deeper tokens
  match rest with
  | ⟨.relation relation, _⟩ :: rest =>
    let (right, rest) ← value scope stop deeper rest
    match rest with
    | ⟨.relation second, span⟩ :: _ => throw (.grammar (.chainedRelations relation second) span)
    | rest =>
      let expr ← Expr.ofComparison relation left right
      pure (expr, rest)
  | rest => pure (left, rest)

def negation : Rule
  | ⟨.not, span⟩ :: rest => do
    let (operand, rest) ← comparison scope stop deeper rest
    operand.requireBoolean .notOperand
    pure (.not operand (span.merge operand.span), rest)
  | tokens => comparison scope stop deeper tokens

def conjunction : Rule := fun tokens => do
  let (left, rest) ← negation scope stop deeper tokens
  match rest with
  | ⟨.and, _⟩ :: rest =>
    let (right, rest) ← deeper .conjunction rest
    left.requireBoolean .andOperand
    right.requireBoolean .andOperand
    pure (.and left right, rest)
  | rest => pure (left, rest)

def disjunction : Rule := fun tokens => do
  let (left, rest) ← conjunction scope stop deeper tokens
  match rest with
  | ⟨.or, _⟩ :: rest =>
    let (right, rest) ← deeper .disjunction rest
    left.requireBoolean .orOperand
    right.requireBoolean .orOperand
    pure (.or left right, rest)
  | rest => pure (left, rest)

/-- One argument or more up to the closing parenthesis, whose place is given back as well. An
argument takes at least one token, so there are no more of them than tokens. -/
def arguments : Nat → List Token → Except Fault (List Expr × Span × List Token)
  | 0, _ => .error (.grammar .missingValue stop)
  | fuel + 1, tokens => do
    let (argument, rest) ← disjunction scope stop deeper tokens
    match rest with
    | ⟨.comma, _⟩ :: rest =>
      let (others, close, rest) ← arguments fuel rest
      pure (argument :: others, close, rest)
    | ⟨.rightParenthesis, close⟩ :: rest => pure ([argument], close, rest)
    | rest =>
      let found := next stop rest
      throw (.grammar (.unclosedArguments found.kind) found.span)

def call (name : String) (start : Span) : Rule
  | ⟨.rightParenthesis, close⟩ :: rest =>
    (scope.resolveCall name [] (start.merge close)).map fun expr => (expr, rest)
  | tokens => do
    let (arguments, close, rest) ← arguments scope stop deeper (tokens.length + 1) tokens
    let expr ← scope.resolveCall name arguments (start.merge close)
    pure (expr, rest)

end Level

/-! ## Levels -/

def nested (scope : Scope) (stop : Span) : Nat → Nested → Rule
  | 0, _, tokens => .error (.grammar (.tooDeep scope.maxDepth) (next stop tokens).span)
  | levels + 1, .disjunction, tokens => disjunction scope stop (nested scope stop levels) tokens
  | levels + 1, .conjunction, tokens => conjunction scope stop (nested scope stop levels) tokens
  | levels + 1, .call name start, tokens => call scope stop (nested scope stop levels) name start tokens

end Grammar

def Expr.ofTokens (scope : Scope) (tokens : List Token) : Except Fault Expr := do
  let stream := TokenStream.ofTokens tokens
  let deeper := Grammar.nested scope stream.stop scope.maxDepth
  let (expr, rest) ← Grammar.disjunction scope stream.stop deeper stream.tokens
  match rest with
  | [] =>
    expr.requireBoolean .condition
    pure expr
  | token :: _ => throw (Grammar.unexpected token)

end Proviso
