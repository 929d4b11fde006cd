import Mathlib.Data.List.Induction
import Proviso.Proofs.Compiler.Reached
import Proviso.Proofs.Compiler.Run

/-!
The cache of a compiler is coherent over whole runs. Whatever steps were taken, an answer is what
reading the text afresh gives by the rules in force and by the library of the last time that the
text was read since the cache was cleared.
-/

namespace Proviso

namespace Compiler

open Outcome (exists_eq_ok_of_any map_eq_ok)
open Text (byteLength)

section History

/-! ## Histories -/

/-- When the text of a key was last read afresh since the cache was cleared: the compiler as it
was then. -/
inductive LastAfresh (start : Compiler) (key : CacheKey) : List Step → Compiler → Prop where
  | here {steps : List Step} {step : Step} (afresh : (start.after steps).CompilesAfresh key step) :
    LastAfresh start key (steps ++ [step]) (start.after steps)
  | earlier {steps : List Step} {step : Step} {origin : Compiler}
    (last : LastAfresh start key steps origin) (intact : ¬ (start.after steps).Clears step)
    (notAfresh : ¬ (start.after steps).CompilesAfresh key step) :
    LastAfresh start key (steps ++ [step]) origin

inductive CompiledSince (start : Compiler) (key : CacheKey) : List Step → Prop where
  | here {steps : List Step} {context : ObjectType} {source : String} {compiled : Compiled}
    (isKey : key = ⟨context.id, source⟩)
    (succeeds : ((start.after steps).compile context source).1 = .ok compiled) :
    CompiledSince start key (steps ++ [.compile context source])
  | earlier {steps : List Step} {step : Step} (since : CompiledSince start key steps)
    (intact : ¬ (start.after steps).Clears step) : CompiledSince start key (steps ++ [step])

def NeverClears (compiler : Compiler) : List Step → Prop
  | [] => True
  | step :: rest => ¬ compiler.Clears step ∧ (compiler.step step).NeverClears rest

def Over (schema : Schema) (steps : List Step) : Prop :=
  ∀ context source, .compile context source ∈ steps → context ∈ schema.types

variable {start compiler origin other : Compiler} {key : CacheKey} {steps : List Step}
  {step : Step} {context : ObjectType} {source : String} {compiled : Compiled}

theorem lastAfresh_append_singleton :
    LastAfresh start key (steps ++ [step]) origin ↔
      ((start.after steps).CompilesAfresh key step ∧ origin = start.after steps) ∨
        (LastAfresh start key steps origin ∧ ¬ (start.after steps).Clears step ∧
          ¬ (start.after steps).CompilesAfresh key step) := by
  constructor
  · intro last
    generalize isAll : steps ++ [step] = all at last
    cases last with
    | here afresh =>
      rcases List.append_inj' isAll rfl with ⟨rfl, same⟩
      cases same
      exact .inl ⟨afresh, rfl⟩
    | earlier last intact notAfresh =>
      rcases List.append_inj' isAll rfl with ⟨rfl, same⟩
      cases same
      exact .inr ⟨last, intact, notAfresh⟩
  · rintro (⟨afresh, rfl⟩ | ⟨last, intact, notAfresh⟩)
    · exact .here afresh
    · exact .earlier last intact notAfresh

theorem LastAfresh.unique (last : LastAfresh start key steps origin)
    (otherLast : LastAfresh start key steps other) : other = origin := by
  induction last with
  | here afresh =>
    rcases lastAfresh_append_singleton.mp otherLast with ⟨_, equal⟩ | ⟨_, _, notAfresh⟩
    · exact equal
    · exact absurd afresh notAfresh
  | earlier _ _ notAfresh induction =>
    rcases lastAfresh_append_singleton.mp otherLast with ⟨afresh, _⟩ | ⟨otherLast, _, _⟩
    · exact absurd afresh notAfresh
    · exact induction otherLast

theorem LastAfresh.exists_prefix (last : LastAfresh start key steps origin) :
    ∃ before, before <+: steps ∧ origin = start.after before := by
  induction last with
  | here => exact ⟨_, List.prefix_append _ _, rfl⟩
  | earlier _ _ _ induction =>
    rcases induction with ⟨before, isPrefix, equal⟩
    exact ⟨before, isPrefix.trans (List.prefix_append _ _), equal⟩

/-! ## What is kept -/

theorem compile_of_cached? (short : byteLength source.toList ≤ compiler.config.maxLength)
    (found : compiler.cached? ⟨context.id, source⟩ = some compiled) :
    compiler.compile context source = (.ok compiled, compiler) := by
  simp only [compile, if_neg (Nat.not_lt.mpr short), found]

theorem compile_of_absent (short : byteLength source.toList ≤ compiler.config.maxLength)
    (absent : compiler.cached? ⟨context.id, source⟩ = none) :
    (compiler.compile context source).1 = compiler.compileFresh context source := by
  simp only [compile, if_neg (Nat.not_lt.mpr short), absent]
  cases compiler.compileFresh context source <;> rfl

/-- Where a kept condition comes from: it is what was read when its text was last read, by rules
that are still in force. -/
structure KeptFrom (start : Compiler) (steps : List Step) (key : CacheKey) (compiled : Compiled)
    (context : ObjectType) (origin : Compiler) : Prop where
  last : LastAfresh start key steps origin
  sameRules : (start.after steps).SameRules origin
  compiles : .compile context key.source ∈ steps
  sameId : context.id = key.typeId
  fresh : origin.compileFresh context key.source = .ok compiled

theorem exists_keptFrom (empty : start.cache = [])
    (found : (start.after steps).cached? key = some compiled) :
    ∃ context origin, KeptFrom start steps key compiled context origin := by
  induction steps using List.reverseRecOn with
  | nil =>
    rw [after_nil, cached?, empty] at found
    cases found
  | append_singleton steps step induction =>
    rw [after_append] at found
    rcases cached?_of_step found with ⟨intact, before | ⟨context, source, rfl, afresh, fresh⟩⟩
    · rcases induction before with ⟨context, origin, kept⟩
      have notAfresh : ¬ (start.after steps).CompilesAfresh key step := by
        intro afresh
        cases step with
        | compile context source => simp [afresh.2.2] at before
        | _ => exact afresh
      refine ⟨context, origin, .earlier kept.last intact notAfresh, ?_,
        List.mem_append_left _ kept.compiles, kept.sameId, kept.fresh⟩
      rw [after_append]
      exact (sameRules_step intact).trans kept.sameRules
    · rcases afresh with ⟨rfl, short, absent⟩
      refine ⟨context, start.after steps, .here ⟨rfl, short, absent⟩, ?_,
        List.mem_append_right _ (List.mem_singleton_self _), rfl, fresh⟩
      rw [after_append]
      exact sameRules_step intact

variable {schema : Schema}

theorem KeptFrom.compileFresh_eq (isOver : Over schema steps) (known : context ∈ schema.types)
    {readFor : ObjectType}
    (kept : KeptFrom start steps ⟨context.id, source⟩ compiled readFor origin) :
    origin.compileFresh context source = .ok compiled := by
  have sameType : readFor = context :=
    schema.identified readFor (isOver readFor _ kept.compiles) context known kept.sameId
  exact sameType ▸ kept.fresh

theorem exists_lastAfresh_of_compile (empty : start.cache = []) (isOver : Over schema steps)
    (known : context ∈ schema.types)
    (short : byteLength source.toList ≤ (start.after steps).config.maxLength) :
    ∃ origin, LastAfresh start ⟨context.id, source⟩ (steps ++ [.compile context source]) origin ∧
      ((start.after steps).compile context source).1 =
        ((start.after steps).asOf origin).compileFresh context source := by
  cases found : (start.after steps).cached? ⟨context.id, source⟩ with
  | none =>
    refine ⟨start.after steps, .here ⟨rfl, short, found⟩, ?_⟩
    exact compile_of_absent short found
  | some compiled =>
    rcases exists_keptFrom empty found with ⟨readFor, origin, kept⟩
    have notAfresh : ¬ (start.after steps).CompilesAfresh ⟨context.id, source⟩
        (.compile context source) := fun afresh => by simp [afresh.2.2] at found
    refine ⟨origin, .earlier kept.last id notAfresh, ?_⟩
    rw [compile_of_cached? short found, compileFresh_asOf kept.sameRules,
      kept.compileFresh_eq isOver known]

/-! ## Repeated compilations -/

theorem cached?_after (found : compiler.cached? key = some compiled)
    (intact : compiler.NeverClears steps) : (compiler.after steps).cached? key = some compiled := by
  induction steps generalizing compiler with
  | nil => exact found
  | cons step rest induction => exact induction (cached?_step intact.1 found) intact.2

theorem cached?_of_compile (caching : compiler.isCaching = true)
    (succeeds : (compiler.compile context source).1 = .ok compiled) :
    byteLength source.toList ≤ compiler.config.maxLength ∧
      (compiler.compile context source).2.cached? ⟨context.id, source⟩ = some compiled := by
  have outcome := compiler.compileOutcome context source
  generalize compiler.compile context source = result at outcome succeeds ⊢
  cases outcome with
  | tooLong => cases succeeds
  | refused => cases succeeds
  | known short found =>
    cases succeeds
    exact ⟨short, found⟩
  | fresh short =>
    cases succeeds
    exact ⟨short, cached?_keep_self caching⟩

theorem compile_again (caching : compiler.isCaching = true)
    (succeeds : (compiler.compile context source).1 = .ok compiled)
    (intact : (compiler.compile context source).2.NeverClears steps) :
    (((compiler.compile context source).2.after steps).compile context source).1 =
      .ok compiled := by
  have kept := cached?_of_compile caching succeeds
  have sameConfig : ((compiler.compile context source).2.after steps).config = compiler.config :=
    (config_after _ _).trans (config_step compiler (.compile context source))
  have short : byteLength source.toList ≤
      ((compiler.compile context source).2.after steps).config.maxLength := sameConfig ▸ kept.1
  rw [compile_of_cached? short (cached?_after kept.2 intact)]

/-! ## The size of the cache -/

theorem isCaching_after (start : Compiler) (steps : List Step) :
    (start.after steps).isCaching = start.isCaching := by
  rw [isCaching, isCaching, config_after]

theorem compiledSince_append_singleton :
    CompiledSince start key (steps ++ [step]) ↔
      (∃ context source compiled, step = .compile context source ∧ key = ⟨context.id, source⟩ ∧
        ((start.after steps).compile context source).1 = .ok compiled) ∨
      (CompiledSince start key steps ∧ ¬ (start.after steps).Clears step) := by
  constructor
  · intro since
    generalize isAll : steps ++ [step] = all at since
    cases since with
    | here isKey succeeds =>
      rcases List.append_inj' isAll rfl with ⟨rfl, same⟩
      cases same
      exact .inl ⟨_, _, _, rfl, isKey, succeeds⟩
    | earlier since intact =>
      rcases List.append_inj' isAll rfl with ⟨rfl, same⟩
      cases same
      exact .inr ⟨since, intact⟩
  · rintro (⟨context, source, compiled, rfl, isKey, succeeds⟩ | ⟨since, intact⟩)
    · exact .here isKey succeeds
    · exact .earlier since intact

theorem compiledSince_iff (empty : start.cache = []) (caching : start.isCaching = true) :
    CompiledSince start key steps ↔
      ∃ compiled, (start.after steps).cached? key = some compiled := by
  induction steps using List.reverseRecOn with
  | nil =>
    constructor
    · intro since
      generalize isNil : ([] : List Step) = all at since
      cases since <;> simp at isNil
    · rintro ⟨compiled, found⟩
      rw [after_nil, cached?, empty] at found
      cases found
  | append_singleton steps step induction =>
    have cachingNow : (start.after steps).isCaching = true :=
      (isCaching_after start steps).trans caching
    rw [compiledSince_append_singleton, induction, after_append]
    constructor
    · rintro (⟨context, source, compiled, rfl, rfl, succeeds⟩ | ⟨⟨compiled, found⟩, intact⟩)
      · exact ⟨compiled, (cached?_of_compile cachingNow succeeds).2⟩
      · exact ⟨compiled, cached?_step intact found⟩
    · rintro ⟨compiled, found⟩
      rcases cached?_of_step found with ⟨intact, before | ⟨context, source, rfl, afresh, fresh⟩⟩
      · exact .inr ⟨⟨compiled, before⟩, intact⟩
      · rcases afresh with ⟨rfl, short, absent⟩
        exact .inl ⟨context, source, compiled, rfl, rfl,
          (compile_of_absent short absent).trans fresh⟩

theorem cached?_eq_none_iff : compiler.cached? key = none ↔ key ∉ compiler.cache.map Prod.fst := by
  rw [cached?, List.lookup_eq_none_iff]
  constructor
  · intro absent member
    rcases List.mem_map.mp member with ⟨entry, isEntry, rfl⟩
    simpa using absent entry isEntry
  · intro absent entry isEntry
    have different : key ≠ entry.1 := fun same => absent (same ▸ List.mem_map_of_mem isEntry)
    simpa using different

theorem nodup_keys_step (distinct : (compiler.cache.map Prod.fst).Nodup) (step : Step) :
    ((compiler.step step).cache.map Prod.fst).Nodup := by
  rcases compiler.cacheChange step with ⟨_, cache⟩ | ⟨_, cache⟩ | ⟨_, _, _, absent, _, cache⟩
  · rw [cache]
    exact List.nodup_nil
  · rwa [cache]
  · rw [cache]
    exact List.nodup_cons.mpr ⟨cached?_eq_none_iff.mp absent, distinct⟩

theorem nodup_keys (empty : start.cache = []) (steps : List Step) :
    ((start.after steps).cache.map Prod.fst).Nodup := by
  induction steps using List.reverseRecOn with
  | nil =>
    rw [after_nil, empty]
    exact List.nodup_nil
  | append_singleton steps step induction =>
    rw [after_append]
    exact nodup_keys_step induction step

theorem exists_keys (empty : start.cache = []) (caching : start.isCaching = true)
    (steps : List Step) :
    ∃ keys : List CacheKey, keys.Nodup ∧ (∀ key, key ∈ keys ↔ CompiledSince start key steps) ∧
      (start.after steps).cacheSize = keys.length := by
  refine ⟨(start.after steps).cache.map Prod.fst, nodup_keys empty steps, fun key => ?_,
    (List.length_map ..).symm⟩
  rw [compiledSince_iff empty caching, ← Option.isSome_iff_exists, ← Option.ne_none_iff_isSome,
    Ne, cached?_eq_none_iff, not_not]

theorem cache_after_of_not_caching (empty : start.cache = [])
    (notCaching : ¬ start.isCaching = true) (steps : List Step) :
    (start.after steps).cache = [] := by
  induction steps using List.reverseRecOn with
  | nil => exact empty
  | append_singleton steps step induction =>
    rw [after_append]
    rcases (start.after steps).cacheChange step with ⟨_, cache⟩ | ⟨_, cache⟩ | ⟨_, caching⟩
    · exact cache
    · exact cache.trans induction
    · exact absurd ((isCaching_after start steps).symm.trans caching) notCaching

end History

/-! ## Without a cache -/

def withoutCache (compiler : Compiler) : Compiler :=
  { compiler with config := { compiler.config with cacheCapacity := 0 }, cache := [] }

/-- Whether the second compiler is the first one without its cache, objects counted apart. -/
structure Twin (first second : Compiler) : Prop where
  library : second.library = first.library
  lexer : second.lexer = first.lexer
  enums : second.enums = first.enums
  config : second.config = { first.config with cacheCapacity := 0 }
  empty : second.cache = []

theorem compile_frame (compiler : Compiler) (context : ObjectType) (source : String) :
    ∃ cache issued, (compiler.compile context source).2 = { compiler with cache, issued } := by
  have outcome := compiler.compileOutcome context source
  generalize compiler.compile context source = result at outcome ⊢
  cases outcome with
  | fresh => exact ⟨_, _, rfl⟩
  | _ => exact ⟨compiler.cache, compiler.issued, rfl⟩

theorem Twin.step {first second : Compiler} (twin : first.Twin second) (step : Step) :
    (first.step step).Twin (second.step step) := by
  have notCaching : ¬ second.isCaching = true := by simp [isCaching, twin.config]
  have empty : (second.step step).cache = [] := by
    rcases second.cacheChange step with ⟨_, cache⟩ | ⟨_, cache⟩ | ⟨_, caching⟩
    · exact cache
    · exact cache.trans twin.empty
    · exact absurd caching notCaching
  cases step with
  | compile context source =>
    rcases compile_frame first context source with ⟨_, _, firstEqual⟩
    rcases compile_frame second context source with ⟨_, _, secondEqual⟩
    rw [Compiler.step, secondEqual] at empty
    rw [Compiler.step, Compiler.step, firstEqual, secondEqual]
    exact ⟨twin.library, twin.lexer, twin.enums, twin.config, empty⟩
  | registerEnum type =>
    rw [Compiler.step] at empty
    rw [Compiler.step, Compiler.step]
    unfold registerEnum at empty ⊢
    rw [twin.enums] at empty ⊢
    split
    case isTrue => exact twin
    case isFalse => exact ⟨twin.library, twin.lexer, rfl, twin.config, rfl⟩
  | withLexer lexer => exact ⟨twin.library, rfl, twin.enums, twin.config, empty⟩
  | clearCache => exact ⟨twin.library, twin.lexer, twin.enums, twin.config, empty⟩
  | register function =>
    rw [Compiler.step, Compiler.step, register, register, twin.library]
    cases first.library.register function with
    | ok library => exact ⟨rfl, twin.lexer, twin.enums, twin.config, twin.empty⟩
    | error fault => exact twin

theorem Twin.after {first second : Compiler} (twin : first.Twin second) (steps : List Step) :
    (first.after steps).Twin (second.after steps) := by
  induction steps generalizing first second with
  | nil => exact twin
  | cons step rest induction => exact induction (twin.step step)

theorem content_compileFresh {first second : Compiler} (library : second.library = first.library)
    (lexer : second.lexer = first.lexer) (enums : second.enums = first.enums)
    (maxDepth : second.config.maxDepth = first.config.maxDepth)
    (caseSensitive : second.config.caseSensitive = first.config.caseSensitive)
    (context : ObjectType) (source : String) :
    (second.compileFresh context source).map Compiled.content =
      (first.compileFresh context source).map Compiled.content := by
  have sameScope : second.scope context = first.scope context := by
    rw [scope, scope, library, enums, maxDepth]
  rw [compileFresh, compileFresh, lexer, sameScope, caseSensitive]
  cases first.lexer.tokenize source false with
  | error fault => rfl
  | ok tokens =>
    simp only [bind, Except.bind]
    cases Expr.ofTokens (first.scope context) tokens with
    | error fault => rfl
    | ok expr =>
      dsimp only
      cases References.ofExpr expr <;> rfl

theorem library_after {start : Compiler} {steps : List Step}
    (noRegistration : ∀ function, .register function ∉ steps) :
    (start.after steps).library = start.library := by
  induction steps generalizing start with
  | nil => rfl
  | cons step rest induction =>
    have later : ((start.step step).after rest).library = (start.step step).library :=
      induction fun function member => noRegistration function (List.mem_cons_of_mem _ member)
    refine later.trans ?_
    cases step with
    | compile context source =>
      rcases compile_frame start context source with ⟨_, _, equal⟩
      rw [Compiler.step, equal]
    | registerEnum type =>
      rw [Compiler.step, registerEnum]
      split <;> rfl
    | withLexer lexer => rfl
    | clearCache => rfl
    | register function => exact absurd (List.mem_cons_self ..) (noRegistration function)

/-- Whatever is kept is current, unless functions were registered on the way. -/
theorem isCurrent_after {schema : Schema} {start : Compiler} {steps : List Step}
    (empty : start.cache = []) (isOver : Over schema steps)
    (noRegistration : ∀ function, .register function ∉ steps) {context : ObjectType}
    (known : context ∈ schema.types) (source : String) :
    (start.after steps).IsCurrent context source := by
  intro compiled found
  rcases exists_keptFrom empty found with ⟨readFor, origin, kept⟩
  rcases kept.last.exists_prefix with ⟨before, isPrefix, rfl⟩
  have noneBefore : ∀ function, .register function ∉ before := fun function member =>
    noRegistration function (isPrefix.subset member)
  have library : (start.after steps).library = (start.after before).library :=
    (library_after noRegistration).trans (library_after noneBefore).symm
  have same := content_compileFresh library kept.sameRules.lexer kept.sameRules.enums
    (congrArg Config.maxDepth kept.sameRules.config)
    (congrArg Config.caseSensitive kept.sameRules.config) context source
  rw [kept.compileFresh_eq isOver known] at same
  exact map_eq_ok.mp same

theorem content_compile_withoutCache {schema : Schema} {start : Compiler} {steps : List Step}
    (empty : start.cache = []) (isOver : Over schema steps)
    (noRegistration : ∀ function, .register function ∉ steps) {context : ObjectType}
    (known : context ∈ schema.types) (source : String) :
    ((start.withoutCache.after steps).compile context source).1.map Compiled.content =
      ((start.after steps).compile context source).1.map Compiled.content := by
  have twin : (start.after steps).Twin (start.withoutCache.after steps) :=
    Twin.after (⟨rfl, rfl, rfl, rfl, rfl⟩ : start.Twin start.withoutCache) steps
  have sameLimit : (start.withoutCache.after steps).config.maxLength =
      (start.after steps).config.maxLength := by rw [twin.config]
  by_cases short : byteLength source.toList ≤ (start.after steps).config.maxLength
  · rcases exists_lastAfresh_of_compile empty isOver known short with ⟨origin, last, answer⟩
    rcases last.exists_prefix with ⟨before, isPrefix, rfl⟩
    have noneBefore : ∀ function, .register function ∉ before := by
      intro function member
      rcases List.mem_append.mp (isPrefix.subset member) with member | member
      · exact noRegistration function member
      · cases List.mem_singleton.mp member
    have absent : (start.withoutCache.after steps).cached? ⟨context.id, source⟩ = none := by
      rw [cached?, twin.empty]
      rfl
    -- What is kept was compiled before: without registrations the library was the same.
    have library : (start.withoutCache.after steps).library =
        ((start.after steps).asOf (start.after before)).library :=
      twin.library.trans ((library_after noRegistration).trans (library_after noneBefore).symm)
    rw [answer, compile_of_absent (sameLimit ▸ short) absent]
    exact content_compileFresh library twin.lexer twin.enums (by rw [twin.config]; rfl)
      (by rw [twin.config]; rfl) context source
  · have long := Nat.lt_of_not_le short
    simp only [compile, sameLimit, if_pos long]

/-! ## Whole runs -/

theorem reached_after {schema : Schema} {start : Compiler} {steps : List Step}
    (empty : start.cache = []) (isOver : Over schema steps) :
    (start.after steps).Reached schema := by
  induction steps using List.reverseRecOn with
  | nil => exact .initial empty
  | append_singleton steps step induction =>
    have reached := induction fun context source member =>
      isOver context source (List.mem_append_left _ member)
    rw [after_append]
    cases step with
    | compile context source =>
      have known := isOver context source (List.mem_append_right _ (List.mem_singleton_self _))
      exact reached.compile known source
    | registerEnum type => exact reached.registerEnum type
    | withLexer lexer => exact reached.withLexer lexer
    | clearCache => exact reached.forget (List.nil_subset _)
    | register function =>
      rw [after_cons, after_nil, Compiler.step]
      cases registered : (start.after steps).register function with
      | ok next => exact reached.register registered
      | error fault => exact reached

/-- That a compiler, which started without conditions, answers coherently after some steps. A
text within the limit gets the answer that reading it gives by the rules in force, and by the
library of the time when it was last read since the cache was cleared. A longer one is refused.
Faults are not kept. While the cache is not cleared, a compiler that caches gives the same object
again, and it counts each condition of a type once. What is given for a type was read for that
type. Unless functions are registered, there is no difference to a compiler without a cache. -/
structure Coherent (schema : Schema) (start : Compiler) (steps : List Step) : Prop where
  answer : ∀ context ∈ schema.types, ∀ source,
    byteLength source.toList ≤ (start.after steps).config.maxLength →
      ∃ origin, (∀ other, LastAfresh start ⟨context.id, source⟩
          (steps ++ [.compile context source]) other ↔ other = origin) ∧
        ((start.after steps).compile context source).1 =
          ((start.after steps).asOf origin).compileFresh context source
  tooLong : ∀ context source,
    (start.after steps).config.maxLength < byteLength source.toList →
      (start.after steps).compile context source =
        (.error (.grammar (.tooLong (byteLength source.toList)
          (start.after steps).config.maxLength)
          (Span.point (start.after steps).config.maxLength)), start.after steps)
  failed : ∀ context source fault,
    ((start.after steps).compile context source).1 = .error fault →
      ((start.after steps).compile context source).2 = start.after steps
  again : start.isCaching = true → ∀ context source compiled,
    ((start.after steps).compile context source).1 = .ok compiled →
      ∀ later, ((start.after steps).compile context source).2.NeverClears later →
        ((((start.after steps).compile context source).2.after later).compile
          context source).1 = .ok compiled
  own : ∀ context ∈ schema.types, ∀ source compiled,
    ((start.after steps).compile context source).1 = .ok compiled →
      compiled.source = source ∧ compiled.predicate.context = context
  size : start.isCaching = true → ∃ keys : List CacheKey, keys.Nodup ∧
    (∀ key, key ∈ keys ↔ CompiledSince start key steps) ∧
      (start.after steps).cacheSize = keys.length
  sizeOfNone : start.isCaching = false → (start.after steps).cacheSize = 0
  alike : (∀ function, .register function ∉ steps) → ∀ context ∈ schema.types, ∀ source,
    ((start.withoutCache.after steps).compile context source).1.map Compiled.content =
      ((start.after steps).compile context source).1.map Compiled.content

theorem coherent_after {schema : Schema} {start : Compiler} {steps : List Step}
    (empty : start.cache = []) (isOver : Over schema steps) : Coherent schema start steps := by
  constructor
  case answer =>
    intro context known source short
    rcases exists_lastAfresh_of_compile empty isOver known short with ⟨origin, last, answer⟩
    exact ⟨origin, fun other => ⟨last.unique, fun equal => equal ▸ last⟩, answer⟩
  case tooLong =>
    intro context source long
    simp only [compile, if_pos long]
  case failed =>
    intro context source fault fails
    have outcome := (start.after steps).compileOutcome context source
    generalize (start.after steps).compile context source = result at outcome fails ⊢
    cases outcome with
    | fresh => cases fails
    | _ => rfl
  case again =>
    intro caching context source compiled succeeds later intact
    exact compile_again ((isCaching_after start steps).trans caching) succeeds intact
  case own =>
    intro context known source compiled succeeds
    rcases (reached_after empty isOver).readAs known succeeds with ⟨expr, readAs⟩
    exact ⟨readAs.source_eq, by rw [readAs.predicate_eq]; rfl⟩
  case size => exact fun caching => exists_keys empty caching steps
  case sizeOfNone =>
    intro notCaching
    rw [cacheSize, cache_after_of_not_caching empty (Bool.eq_false_iff.mp notCaching)]
    rfl
  case alike =>
    intro noRegistration context known source
    exact content_compile_withoutCache empty isOver noRegistration known source

theorem coherent_after_ofAges :
    Coherent .people ofAges
      [.compile .person "18<=Age", .clearCache, .compile .person "18<=Age",
        .withLexer ofAges.lexer, .compile .person "Age"] := by
  refine coherent_after rfl fun context source member => ?_
  have ofPeople : context = .person := by
    simp only [List.mem_cons, Step.compile.injEq, reduceCtorEq, List.not_mem_nil, or_false,
      false_or] at member
    rcases member with equal | equal | equal <;> exact equal.1
  exact ofPeople ▸ List.mem_cons_self ..

/-- Without a cache another object is given for the same text, and none is counted; and a text
beyond the limit is refused although it can be read. -/
theorem compile_ofAges_differs :
    (∃ compiled, (ofAges.withoutCache.compile .person "18<=Age").1 = .ok compiled ∧
      ((ofAges.withoutCache.compile .person "18<=Age").2.compile .person "18<=Age").1 ≠
        .ok compiled) ∧
    (CompiledSince ofAges.withoutCache ⟨2, "18<=Age"⟩ [.compile .person "18<=Age"] ∧
      (ofAges.withoutCache.after [.compile .person "18<=Age"]).cacheSize = 0) ∧
    (∃ compiled, ({ ofAges with config := { maxLength := 3 } } : Compiler).compileFresh
        .person "18<=Age" = .ok compiled ∧
      (({ ofAges with config := { maxLength := 3 } } : Compiler).compile .person "18<=Age").1 ≠
        .ok compiled) := by
  let next := (ofAges.withoutCache.compile .person "18<=Age").2
  have accepts : (ofAges.withoutCache.compile .person "18<=Age").1.toOption.any
      (·.serial == 0) = true := by
    decide +kernel
  have acceptsAgain : (next.compile .person "18<=Age").1.toOption.any (·.serial == 1) = true := by
    decide +kernel
  rcases exists_eq_ok_of_any accepts with ⟨first, accepted, firstSerial⟩
  rcases exists_eq_ok_of_any acceptsAgain with ⟨second, acceptedAgain, secondSerial⟩
  refine ⟨⟨first, accepted, ?_⟩, ⟨?_, ?_⟩, ?_⟩
  · intro same
    cases acceptedAgain.symm.trans same
    rw [beq_iff_eq.mp firstSerial] at secondSerial
    cases secondSerial
  · have succeeds : ((ofAges.withoutCache.after []).compile .person "18<=Age").1 = .ok first :=
      accepted
    exact .here rfl succeeds
  · have notCaching : ¬ ofAges.withoutCache.isCaching = true := Bool.false_ne_true
    rw [cacheSize, cache_after_of_not_caching rfl notCaching]
    rfl
  · have readable : (({ ofAges with config := { maxLength := 3 } } : Compiler).compileFresh
        .person "18<=Age").toOption.any (fun _ => true) = true := by
      decide +kernel
    rcases exists_eq_ok_of_any readable with ⟨compiled, read, _⟩
    exact ⟨compiled, read, nofun⟩

end Compiler

end Proviso
