import Proviso.Compiler.Config
import Proviso.Expr.Grammar
import Proviso.Expr.References
import Proviso.Function.Builtin
import Proviso.Predicate.Basic
import Proviso.Token.Lexer

/-!
Compilers: a library of functions, a lexer, settings and enumerations, by which the texts of
conditions are made into predicates. A compiled condition is kept under its context type and its
text and given again for them, until the lexer or the enumerations change or the cache is
cleared; functions that are registered later do not change what is kept.
-/

namespace Proviso

/-- A compiled condition; the serial number tells the objects of one compiler apart. -/
structure Compiled where
  serial : Nat
  source : String
  predicate : Predicate
  references : References

structure CacheKey where
  typeId : Nat
  source : String
  deriving DecidableEq

structure Compiler where
  library : Library
  lexer : Lexer := Lexer.standard
  config : Config := .standard
  enums : List EnumType := []
  cache : List (CacheKey × Compiled) := []
  issued : Nat := 0

namespace Compiler

def standard : Compiler :=
  { library := .standard }

/-! ## Changes -/

def clearCache (compiler : Compiler) : Compiler :=
  { compiler with cache := [] }

def withLexer (compiler : Compiler) (lexer : Lexer) : Compiler :=
  { compiler with lexer }.clearCache

/-- Makes the members of an enumeration known; one that is known already changes nothing. -/
def registerEnum (compiler : Compiler) (type : EnumType) : Compiler :=
  if compiler.enums.any (·.agrees type) then compiler
  else { compiler with enums := compiler.enums ++ [type] }.clearCache

def register (compiler : Compiler) (function : Function) : Except Fault Compiler :=
  (compiler.library.register function).map fun library => { compiler with library }

/-! ## Compiling -/

def scope (compiler : Compiler) (context : ObjectType) : Scope where
  context := context
  library := compiler.library
  enums := context.reachableEnums ++ compiler.enums
  maxDepth := compiler.config.maxDepth

def compileFresh (compiler : Compiler) (context : ObjectType) (source : String) :
    Except Fault Compiled := do
  let tokens ← compiler.lexer.tokenize source false
  let expr ← Expr.ofTokens (compiler.scope context) tokens
  let references ← References.ofExpr expr
  let predicate := Predicate.ofExpr context compiler.config.caseSensitive expr
  pure ⟨compiler.issued, source, predicate, references⟩

def isCaching (compiler : Compiler) : Bool :=
  0 < compiler.config.cacheCapacity

def cached? (compiler : Compiler) (key : CacheKey) : Option Compiled :=
  compiler.cache.lookup key

def keep (compiler : Compiler) (key : CacheKey) (compiled : Compiled) : Compiler :=
  { compiler with
    issued := compiler.issued + 1
    cache := if compiler.isCaching then (key, compiled) :: compiler.cache else compiler.cache }

/-- Compiles a condition for records of a type. A text of too many bytes is refused before
anything else; only conditions without a fault are kept. -/
def compile (compiler : Compiler) (context : ObjectType) (source : String) :
    Except Fault Compiled × Compiler :=
  let length := Text.byteLength source.toList
  let limit := compiler.config.maxLength
  if limit < length then
    (.error (.grammar (.tooLong length limit) (Span.point limit)), compiler)
  else
    let key : CacheKey := ⟨context.id, source⟩
    match compiler.cached? key with
    | some compiled => (.ok compiled, compiler)
    | none =>
      match compiler.compileFresh context source with
      | .ok compiled => (.ok compiled, compiler.keep key compiled)
      | .error fault => (.error fault, compiler)

def cacheSize (compiler : Compiler) : Nat :=
  compiler.cache.length

end Compiler

end Proviso
