import Proviso.Proofs.Compiler.Run
import Proviso.Proofs.Condition.Faults
import Proviso.Proofs.Grammar.Faults
import Proviso.Proofs.Token.Tiling
import Proviso.Proofs.Token.Words

/-!
Faults of texts and faults of evaluations. A text that is not compiled has a fault that its author
can be told of: it cannot be cut, its grammar or its types are wrong, or its names collide. Only a
lexer with a rule of its own for relations can fail otherwise. A condition that was compiled comes
to no fault but one of its evaluation.
-/

namespace Proviso

open Outcome

/-! ## Cutting -/

namespace Lexer

variable {lexer : Lexer}

/-- That a rule for relations makes a token of a text that says none of them, at some place. -/
def Misreads (lexer : Lexer) (source written : String) : Prop :=
  ∃ before after, source.toList = before ++ after ∧
    ∃ rule ∈ lexer, rule.type = .relation ∧ ∃ found ∈ rule.automaton.find? after,
      lexer.next? after = some (found.stop, .relation) ∧
        written = String.ofList (after.take found.stop) ∧
          ∀ relation : Relation, relation.text ≠ written

theorem exists_rule_of_next? {text : List Char} {count : Nat} {type : TokenType}
    (next : lexer.next? text = some (count, type)) :
    ∃ rule ∈ lexer, rule.type = type ∧ ∃ found ∈ rule.automaton.find? text, found.stop = count := by
  rcases List.exists_of_findSome?_eq_some next with ⟨rule, member, taken⟩
  split at taken
  case h_1 found isFound =>
    split at taken <;> cases taken
    exact ⟨rule, member, rfl, found, isFound, rfl⟩
  case h_2 => cases taken

theorem tokenize_failsOnly (lexer : Lexer) (source : String) (keepWhitespace : Bool) :
    FailsOnly (fun fault => (∃ residual position, fault = .lexical residual position) ∨
      ∃ written, fault = .relation written ∧ lexer.Misreads source written)
      (lexer.tokenize source keepWhitespace) := by
  intro fault stops
  -- A scan stops where no rule matches, or at a token that cannot be read.
  rcases exists_scans lexer (Nat.le_refl source.toList.length) 0 with
    ⟨tokens, finish, rest, scans, _, ⟨_, succeeds⟩ | ⟨cause, stuck, fails⟩⟩
  · cases stops.symm.trans (succeeds keepWhitespace)
  · cases stops.symm.trans (fails keepWhitespace)
    rcases stuck.cause with ⟨residual, _, _, rfl | rfl⟩ | ⟨count, next, unknown, rfl⟩
    · exact .inl ⟨_, _, rfl⟩
    · exact .inl ⟨_, _, rfl⟩
    · refine .inr ⟨_, rfl, ?_⟩
      rcases scans.exists_inner with ⟨inner, isText, _⟩
      rcases exists_rule_of_next? next with ⟨rule, member, isRelation, found, isFound, rfl⟩
      refine ⟨inner, rest, isText, rule, member, isRelation, found, isFound, next, rfl, ?_⟩
      intro relation isWritten
      rw [← isWritten, Relation.ofText?_text] at unknown
      cases unknown

theorem not_misreads_standard (source written : String) : ¬ standard.Misreads source written := by
  rintro ⟨before, after, _, rule, _, _, found, _, next, isWritten, unknown⟩
  rcases exists_text_of_next? next with ⟨relation, isText⟩
  rw [isText, String.ofList_toList] at isWritten
  exact unknown relation isWritten.symm

end Lexer

/-! ## Compiling -/

theorem References.ofExpr_failsOnly (expr : Expr) :
    FailsOnly (fun fault => ∃ field constant segment name,
      fault = .naming field constant segment name) (ofExpr expr) := by
  intro fault fails
  unfold ofExpr at fails
  dsimp only at fails
  split at fails <;> cases fails
  case h_1 collides =>
    rcases List.exists_of_findSome?_eq_some collides with ⟨field, _, ofField⟩
    rcases List.exists_of_findSome?_eq_some ofField with ⟨constant, _, shared⟩
    rcases Option.map_eq_some_iff.mp shared with ⟨⟨segment, name⟩, _, rfl⟩
    exact ⟨field, constant, segment, name, rfl⟩

namespace Compiler

theorem compileFresh_failsOnly (compiler : Compiler) (context : ObjectType) (source : String) :
    FailsOnly (fun fault => fault.isCompileTime = true ∨
      ∃ written, fault = .relation written ∧ compiler.lexer.Misreads source written)
      (compiler.compileFresh context source) := by
  have cutting := (compiler.lexer.tokenize_failsOnly source false).imp fun fault found =>
    found.imp_left fun ⟨_, _, isLexical⟩ => show fault.isCompileTime = true from isLexical ▸ rfl
  refine cutting.bind fun tokens => ?_
  have reading := Expr.ofTokens_failsOnly (compiler.scope context) tokens
  refine (reading.imp fun _ ofReading => .inl ofReading.isCompileTime).bind fun expr => ?_
  have naming := References.ofExpr_failsOnly expr
  refine (naming.imp fun fault ⟨_, _, _, _, isNaming⟩ => .inl ?_).bind fun _ => failsOnly_ok _
  rw [isNaming]
  rfl

/-- That faults are found in their time. A text that is refused has a fault of its own, or a rule
for relations took something else in it, which the lexer of the language never does. A condition
that was compiled comes to no fault but those of an evaluation. -/
structure Separates (compiler : Compiler) (context : ObjectType) (source : String) : Prop where
  refuses : ∀ fault, (compiler.compile context source).1 = .error fault →
    fault.isCompileTime = true ∨
      ∃ written, fault = .relation written ∧ compiler.lexer.Misreads source written
  refusesByStandard : compiler.lexer = .standard → ∀ fault,
    (compiler.compile context source).1 = .error fault → fault.isCompileTime = true
  evaluates : ∀ compiled, (compiler.compile context source).1 = .ok compiled →
    ∀ clock record, compiled.predicate.Reports clock record

/-- Faults of texts and faults of evaluations do not mix. -/
theorem separates (compiler : Compiler) (context : ObjectType) (source : String) :
    compiler.Separates context source := by
  have refuses : ∀ fault, (compiler.compile context source).1 = .error fault →
      fault.isCompileTime = true ∨
        ∃ written, fault = .relation written ∧ compiler.lexer.Misreads source written := by
    intro fault refused
    have outcome := compiler.compileOutcome context source
    generalize compiler.compile context source = result at outcome refused
    cases outcome with
    | tooLong =>
      cases refused
      exact .inl rfl
    | refused _ _ fails =>
      cases refused
      exact compiler.compileFresh_failsOnly context source _ fails
    | known | fresh => cases refused
  constructor
  case refuses => exact refuses
  case refusesByStandard =>
    intro isStandard fault refused
    rcases refuses fault refused with found | ⟨written, _, misreads⟩
    · exact found
    · rw [isStandard] at misreads
      exact absurd misreads (Lexer.not_misreads_standard source written)
  case evaluates => exact fun compiled _ clock record => compiled.predicate.reports clock record

/-- A rule that takes more than the relations refuses a text for what it took. -/
example : (Lexer.ofTable [("Age", .identifier), ("[<=>]+", .relation),
    ("[0-9]+", .integer)]).toOption.any (fun lexer =>
      match ({ ofAges with lexer }.compile .person "Age=>18").1 with
      | .error (.relation written) => written == "=>"
      | _ => false) = true := by
  decide +kernel

end Compiler

end Proviso
