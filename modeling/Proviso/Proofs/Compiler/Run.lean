import Proviso.Compiler.Basic

/-!
What is done to one compiler, step by step. A step says at once what it does to the conditions
that are kept: it clears them, it adds the one that it compiled afresh, or it leaves them.
-/

namespace Proviso

def Compiled.content (compiled : Compiled) : String × Predicate × References :=
  (compiled.source, compiled.predicate, compiled.references)

namespace Compiler

open Text (byteLength)

/-! ## Steps -/

inductive Step where
  | compile (context : ObjectType) (source : String)
  | registerEnum (type : EnumType)
  | withLexer (lexer : Lexer)
  | clearCache
  | register (function : Function)

/-- The compiler behind a step; a function that cannot be registered changes nothing. -/
def step (compiler : Compiler) : Step → Compiler
  | .compile context source => (compiler.compile context source).2
  | .registerEnum type => compiler.registerEnum type
  | .withLexer lexer => compiler.withLexer lexer
  | .clearCache => compiler.clearCache
  | .register function => (compiler.register function).toOption.getD compiler

def after (compiler : Compiler) (steps : List Step) : Compiler :=
  steps.foldl step compiler

def Clears (compiler : Compiler) : Step → Prop
  | .clearCache => True
  | .withLexer _ => True
  | .registerEnum type => compiler.enums.any (·.agrees type) = false
  | .compile _ _ => False
  | .register _ => False

/-- Whether a step reads the text of a key anew, because nothing is kept under the key. -/
def CompilesAfresh (compiler : Compiler) (key : CacheKey) : Step → Prop
  | .compile context source => key = ⟨context.id, source⟩ ∧
      byteLength source.toList ≤ compiler.config.maxLength ∧ compiler.cached? key = none
  | _ => False

@[simp] theorem after_nil (compiler : Compiler) : compiler.after [] = compiler :=
  rfl

@[simp] theorem after_cons (compiler : Compiler) (step : Step) (steps : List Step) :
    compiler.after (step :: steps) = (compiler.step step).after steps :=
  rfl

@[simp] theorem after_append (compiler : Compiler) (steps later : List Step) :
    compiler.after (steps ++ later) = (compiler.after steps).after later :=
  List.foldl_append

/-! ## Compiling -/

inductive CompileOutcome (compiler : Compiler) (context : ObjectType) (source : String) :
    Except Fault Compiled × Compiler → Prop where
  | tooLong (long : compiler.config.maxLength < byteLength source.toList) :
    CompileOutcome compiler context source
      (.error (.grammar (.tooLong (byteLength source.toList) compiler.config.maxLength)
        (Span.point compiler.config.maxLength)), compiler)
  | known (short : byteLength source.toList ≤ compiler.config.maxLength) {compiled : Compiled}
    (found : compiler.cached? ⟨context.id, source⟩ = some compiled) :
    CompileOutcome compiler context source (.ok compiled, compiler)
  | refused (short : byteLength source.toList ≤ compiler.config.maxLength)
    (absent : compiler.cached? ⟨context.id, source⟩ = none) {fault : Fault}
    (fails : compiler.compileFresh context source = .error fault) :
    CompileOutcome compiler context source (.error fault, compiler)
  | fresh (short : byteLength source.toList ≤ compiler.config.maxLength)
    (absent : compiler.cached? ⟨context.id, source⟩ = none) {compiled : Compiled}
    (succeeds : compiler.compileFresh context source = .ok compiled) :
    CompileOutcome compiler context source
      (.ok compiled, compiler.keep ⟨context.id, source⟩ compiled)

variable {compiler : Compiler} {key other : CacheKey} {compiled : Compiled} {step : Step}

theorem compileOutcome (compiler : Compiler) (context : ObjectType) (source : String) :
    CompileOutcome compiler context source (compiler.compile context source) := by
  simp only [compile]
  split
  case isTrue long => exact .tooLong long
  case isFalse short =>
    have short := Nat.le_of_not_lt short
    split
    case h_1 compiled found => exact .known short found
    case h_2 absent =>
      split
      case h_1 compiled succeeds => exact .fresh short absent succeeds
      case h_2 fault fails => exact .refused short absent fails

theorem cached?_keep_self (caching : compiler.isCaching = true) :
    (compiler.keep key compiled).cached? key = some compiled := by
  simp [keep, cached?, caching]

/-! ## Rules -/

structure SameRules (first second : Compiler) : Prop where
  lexer : first.lexer = second.lexer
  enums : first.enums = second.enums
  config : first.config = second.config

theorem SameRules.refl (compiler : Compiler) : compiler.SameRules compiler :=
  ⟨rfl, rfl, rfl⟩

theorem SameRules.trans {first second third : Compiler} (same : first.SameRules second)
    (further : second.SameRules third) : first.SameRules third :=
  ⟨same.lexer.trans further.lexer, same.enums.trans further.enums,
    same.config.trans further.config⟩

/-- A compiler with the library, and the count of objects, that another one has. -/
def asOf (compiler origin : Compiler) : Compiler :=
  { compiler with library := origin.library, issued := origin.issued }

theorem compileFresh_asOf {origin : Compiler} (same : compiler.SameRules origin)
    (context : ObjectType) (source : String) :
    (compiler.asOf origin).compileFresh context source = origin.compileFresh context source := by
  simp only [compileFresh, asOf, scope, same.lexer, same.enums, same.config]

/-! ## What a step does -/

theorem register_eq (compiler : Compiler) (function : Function) :
    ∃ library, compiler.step (.register function) = { compiler with library } := by
  rw [Compiler.step, register]
  cases compiler.library.register function with
  | ok library => exact ⟨library, rfl⟩
  | error fault => exact ⟨compiler.library, rfl⟩

theorem sameRules_step (intact : ¬ compiler.Clears step) :
    (compiler.step step).SameRules compiler := by
  cases step with
  | compile context source =>
    have outcome := compiler.compileOutcome context source
    rw [Compiler.step]
    generalize compiler.compile context source = result at outcome ⊢
    cases outcome <;> exact ⟨rfl, rfl, rfl⟩
  | registerEnum type =>
    have known : compiler.enums.any (·.agrees type) = true := by simpa [Clears] using intact
    rw [Compiler.step, registerEnum, if_pos known]
    exact .refl _
  | withLexer lexer => exact absurd trivial intact
  | clearCache => exact absurd trivial intact
  | register function =>
    rcases register_eq compiler function with ⟨library, equal⟩
    rw [equal]
    exact ⟨rfl, rfl, rfl⟩

theorem config_step (compiler : Compiler) (step : Step) :
    (compiler.step step).config = compiler.config := by
  by_cases clears : compiler.Clears step
  · cases step with
    | compile context source => exact clears.elim
    | register function => exact clears.elim
    | withLexer lexer => rfl
    | clearCache => rfl
    | registerEnum type =>
      rw [Compiler.step, registerEnum]
      split <;> rfl
  · exact (sameRules_step clears).config

theorem config_after (compiler : Compiler) (steps : List Step) :
    (compiler.after steps).config = compiler.config := by
  induction steps generalizing compiler with
  | nil => rfl
  | cons step rest induction => exact (induction _).trans (config_step compiler step)

/-- What a step does to the cache: it clears it, leaves it as it is, or keeps the condition that it
compiled afresh. -/
inductive CacheChange (compiler : Compiler) (step : Step) : Prop where
  | cleared (clears : compiler.Clears step) (cache : (compiler.step step).cache = [])
  | left (intact : ¬ compiler.Clears step) (cache : (compiler.step step).cache = compiler.cache)
  | kept {context : ObjectType} {source : String} {compiled : Compiled}
    (isCompile : step = .compile context source) (caching : compiler.isCaching = true)
    (short : byteLength source.toList ≤ compiler.config.maxLength)
    (absent : compiler.cached? ⟨context.id, source⟩ = none)
    (succeeds : compiler.compileFresh context source = .ok compiled)
    (cache : (compiler.step step).cache = (⟨context.id, source⟩, compiled) :: compiler.cache)

theorem cacheChange_compile (compiler : Compiler) (context : ObjectType) (source : String) :
    compiler.CacheChange (.compile context source) := by
  have outcome := compiler.compileOutcome context source
  have isStep : compiler.step (.compile context source) = (compiler.compile context source).2 := rfl
  generalize compiler.compile context source = result at outcome isStep
  cases outcome with
  | fresh short absent succeeds =>
    by_cases caching : compiler.isCaching = true
    · exact .kept rfl caching short absent succeeds (by rw [isStep]; exact if_pos caching)
    · exact .left id (by rw [isStep]; exact if_neg caching)
  | _ => exact .left id (by rw [isStep])

theorem cacheChange (compiler : Compiler) (step : Step) : compiler.CacheChange step := by
  cases step with
  | compile context source => exact compiler.cacheChange_compile context source
  | registerEnum type =>
    cases known : compiler.enums.any (·.agrees type) with
    | true =>
      have intact : ¬ compiler.Clears (.registerEnum type) := by simp [Clears, known]
      exact .left intact (by rw [Compiler.step, registerEnum, if_pos known])
    | false =>
      have unknown := Bool.eq_false_iff.mp known
      exact .cleared known (by rw [Compiler.step, registerEnum, if_neg unknown]; rfl)
  | withLexer lexer => exact .cleared trivial rfl
  | clearCache => exact .cleared trivial rfl
  | register function =>
    rcases register_eq compiler function with ⟨library, equal⟩
    exact .left id (by rw [equal])

theorem cached?_step (intact : ¬ compiler.Clears step)
    (found : compiler.cached? key = some compiled) :
    (compiler.step step).cached? key = some compiled := by
  rcases compiler.cacheChange step with
    ⟨clears, _⟩ | ⟨_, cache⟩ | @⟨context, source, _, _, _, _, absent, _, cache⟩
  · exact absurd clears intact
  · rwa [cached?, cache]
  · have different : key ≠ ⟨context.id, source⟩ := by
      rintro rfl
      rw [absent] at found
      cases found
    rwa [cached?, cache, List.lookup_cons, beq_eq_false_iff_ne.mpr different]

theorem cached?_of_step (found : (compiler.step step).cached? key = some compiled) :
    ¬ compiler.Clears step ∧ (compiler.cached? key = some compiled ∨
      ∃ context source, step = .compile context source ∧ compiler.CompilesAfresh key step ∧
        compiler.compileFresh context source = .ok compiled) := by
  rcases compiler.cacheChange step with
    ⟨_, cache⟩ | ⟨intact, cache⟩ | @⟨context, source, _, rfl, _, short, absent, succeeds, cache⟩
  · rw [cached?, cache] at found
    cases found
  · rw [cached?, cache] at found
    exact ⟨intact, .inl found⟩
  · refine ⟨id, ?_⟩
    rw [cached?, cache] at found
    by_cases same : key = ⟨context.id, source⟩
    · subst same
      rw [List.lookup_cons_self] at found
      cases found
      exact .inr ⟨context, source, rfl, ⟨rfl, short, absent⟩, succeeds⟩
    · rw [List.lookup_cons, beq_eq_false_iff_ne.mpr same] at found
      exact .inl found

/-! ## Current conditions -/

variable {context : ObjectType} {source : String}

/-- Whether what is kept for a text, if anything, is what the text is compiled to now, but for the
serial number. -/
def IsCurrent (compiler : Compiler) (context : ObjectType) (source : String) : Prop :=
  ∀ compiled, compiler.cached? ⟨context.id, source⟩ = some compiled →
    ∃ fresh, compiler.compileFresh context source = .ok fresh ∧ fresh.content = compiled.content

theorem isCurrent_of_empty (empty : compiler.cache = []) : compiler.IsCurrent context source := by
  intro compiled found
  simp [cached?, empty] at found

theorem IsCurrent.exists_compileFresh (current : compiler.IsCurrent context source)
    (compiles : (compiler.compile context source).1 = .ok compiled) :
    byteLength source.toList ≤ compiler.config.maxLength ∧
      ∃ fresh, compiler.compileFresh context source = .ok fresh ∧
        fresh.content = compiled.content := by
  have outcome := compiler.compileOutcome context source
  generalize compiler.compile context source = result at outcome compiles
  cases outcome with
  | tooLong | refused => cases compiles
  | known short found =>
    cases compiles
    exact ⟨short, current _ found⟩
  | fresh short _ succeeds =>
    cases compiles
    exact ⟨short, _, succeeds, rfl⟩

theorem exists_compile_of_compileFresh (short : byteLength source.toList ≤ compiler.config.maxLength)
    (succeeds : compiler.compileFresh context source = .ok compiled) :
    ∃ given, (compiler.compile context source).1 = .ok given := by
  have outcome := compiler.compileOutcome context source
  generalize compiler.compile context source = result at outcome ⊢
  cases outcome with
  | tooLong long => exact absurd short (Nat.not_le.mpr long)
  | refused _ _ fails => cases succeeds.symm.trans fails
  | known | fresh => exact ⟨_, rfl⟩

end Compiler

end Proviso
