import Proviso.Compiler.Basic
import Proviso.Proofs.Outcome
import Proviso.Proofs.Record.Building

/-!
Compilers in use. Whatever is done to a compiler, the conditions that it keeps are those that it
compiled at some time, with the lexer that it has now, for the context type under whose identity
they are kept; so a condition that it gives was read from its own text in the scope of its own
context type.
-/

namespace Proviso

open Outcome

/-- The compilers that come about by using one that keeps no conditions yet. Conditions that are
kept may be lost at any time. -/
inductive Compiler.Reached (schema : Schema) : Compiler → Prop where
  | initial {compiler : Compiler} (empty : compiler.cache = []) : Reached schema compiler
  | withLexer {compiler : Compiler} (reached : Reached schema compiler) (lexer : Lexer) :
    Reached schema (compiler.withLexer lexer)
  | registerEnum {compiler : Compiler} (reached : Reached schema compiler) (type : EnumType) :
    Reached schema (compiler.registerEnum type)
  | register {compiler next : Compiler} {function : Function} (reached : Reached schema compiler)
    (registered : compiler.register function = .ok next) : Reached schema next
  | forget {compiler : Compiler} {kept : List (CacheKey × Compiled)}
    (reached : Reached schema compiler) (fewer : kept ⊆ compiler.cache) :
    Reached schema { compiler with cache := kept }
  | compile {compiler : Compiler} {context : ObjectType} (reached : Reached schema compiler)
    (known : context ∈ schema.types) (source : String) :
    Reached schema (compiler.compile context source).2

/-- How a compiled condition came about: its text was read as an expression in a scope of the
context type, and the predicate and the references were made from the expression. -/
structure Compiled.ReadAs (compiled : Compiled) (context : ObjectType) (source : String)
    (expr : Expr) : Prop where
  source_eq : compiled.source = source
  read : ∃ (lexer : Lexer) (scope : Scope) (tokens : List Token), scope.context = context ∧
    lexer.tokenize source false = .ok tokens ∧ Expr.ofTokens scope tokens = .ok expr
  predicate_eq : compiled.predicate =
    .ofExpr context compiled.predicate.caseSensitive expr
  references_eq : References.ofExpr expr = .ok compiled.references

structure Compiled.ReadWith (compiled : Compiled) (lexer : Lexer) (context : ObjectType)
    (source : String) (expr : Expr) : Prop extends compiled.ReadAs context source expr where
  cut : ∃ (scope : Scope) (tokens : List Token), scope.context = context ∧
    lexer.tokenize source false = .ok tokens ∧ Expr.ofTokens scope tokens = .ok expr

namespace Compiler

theorem readWith_of_compileFresh {compiler : Compiler} {context : ObjectType} {source : String}
    {compiled : Compiled} (fresh : compiler.compileFresh context source = .ok compiled) :
    ∃ expr, compiled.ReadWith compiler.lexer context source expr := by
  rcases bind_eq_ok.mp fresh with ⟨tokens, tokenized, fresh⟩
  rcases bind_eq_ok.mp fresh with ⟨expr, read, fresh⟩
  rcases bind_eq_ok.mp fresh with ⟨references, referred, fresh⟩
  cases fresh
  exact ⟨expr, ⟨rfl, ⟨_, _, tokens, rfl, tokenized, read⟩, rfl, referred⟩,
    _, tokens, rfl, tokenized, read⟩

/-- What holds of the conditions that a compiler keeps. The lexer is the one of now, as a change of
the lexer clears them. -/
def KeepsRead (schema : Schema) (compiler : Compiler) : Prop :=
  ∀ key compiled, (key, compiled) ∈ compiler.cache →
    ∃ context ∈ schema.types, context.id = key.typeId ∧
      ∃ expr, compiled.ReadWith compiler.lexer context key.source expr

variable {schema : Schema} {compiler : Compiler} {context : ObjectType} {source : String}
  {compiled : Compiled}

theorem KeepsRead.readWith_of_compile (keeps : compiler.KeepsRead schema)
    (known : context ∈ schema.types)
    (accepted : (compiler.compile context source).1 = .ok compiled) :
    ∃ expr, compiled.ReadWith compiler.lexer context source expr := by
  simp only [Compiler.compile] at accepted
  split at accepted
  case isTrue => cases accepted
  case isFalse =>
    split at accepted
    case h_1 kept found =>
      cases accepted
      rcases List.lookup_eq_some_iff.mp found with ⟨before, after, cache, _⟩
      have member : (⟨context.id, source⟩, compiled) ∈ compiler.cache := by simp [cache]
      rcases keeps _ _ member with ⟨origin, originKnown, sameId, readWith⟩
      rwa [schema.identified origin originKnown context known sameId] at readWith
    case h_2 =>
      split at accepted
      case h_1 fresh =>
        cases accepted
        exact readWith_of_compileFresh fresh
      case h_2 => cases accepted

theorem KeepsRead.compile (keeps : compiler.KeepsRead schema) (known : context ∈ schema.types)
    (source : String) : (compiler.compile context source).2.KeepsRead schema := by
  simp only [Compiler.compile]
  split
  case isTrue => exact keeps
  case isFalse =>
    split
    case h_1 => exact keeps
    case h_2 =>
      split
      case h_1 compiled fresh =>
        have readWith := readWith_of_compileFresh fresh
        intro key kept member
        simp only [keep] at member
        split at member
        case isTrue =>
          rcases List.mem_cons.mp member with equal | member
          · cases equal
            exact ⟨context, known, rfl, readWith⟩
          · exact keeps key kept member
        case isFalse => exact keeps key kept member
      case h_2 => exact keeps

theorem Reached.keepsRead (reached : compiler.Reached schema) : compiler.KeepsRead schema := by
  induction reached with
  | initial empty =>
    intro key kept member
    rw [empty] at member
    cases member
  | withLexer _ lexer _ => exact nofun
  | registerEnum _ type induction =>
    unfold Compiler.registerEnum
    split
    case isTrue => exact induction
    case isFalse => exact nofun
  | register _ registered induction =>
    rcases map_eq_ok.mp registered with ⟨library, _, rfl⟩
    exact induction
  | forget _ fewer induction => exact fun key kept member => induction key kept (fewer member)
  | compile _ known source induction => exact induction.compile known source

theorem Reached.readWith (reached : compiler.Reached schema) (known : context ∈ schema.types)
    (accepted : (compiler.compile context source).1 = .ok compiled) :
    ∃ expr, compiled.ReadWith compiler.lexer context source expr :=
  reached.keepsRead.readWith_of_compile known accepted

theorem Reached.readAs (reached : compiler.Reached schema) (known : context ∈ schema.types)
    (accepted : (compiler.compile context source).1 = .ok compiled) :
    ∃ expr, compiled.ReadAs context source expr :=
  (reached.readWith known accepted).imp fun _ readWith => readWith.toReadAs

def ofAges : Compiler where
  library := .empty
  lexer := (Lexer.ofTable
    [("Age", .identifier), ("<=", .relation), ("[0-9][0-9]", .integer)]).toOption.getD []

theorem reached_ofAges : ofAges.Reached .people :=
  .initial rfl

def ofLengths : Compiler where
  library := ⟨[Builtin.length]⟩
  lexer := (Lexer.ofTable
    [("Length\\(", .functionOpen), ("Age|Name", .identifier), ("<=", .relation),
     ("\\)", .rightParenthesis)]).toOption.getD []

theorem reached_ofLengths : ofLengths.Reached .people :=
  .initial rfl

end Compiler

end Proviso
