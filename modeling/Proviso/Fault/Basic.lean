import Proviso.Function.Signature
import Proviso.Schema.Family
import Proviso.Token.Basic

/-!
Everything that can go wrong, by its cause: in the text of a condition, in its types, in the
names it uses, in a message template, or when it is evaluated. A cause that a host function
states itself is only its message.
-/

namespace Proviso

/-! ## Causes -/

inductive BooleanRole where
  | condition
  | orOperand
  | andOperand
  | notOperand

inductive GrammarFault where
  | tooLong (length limit : Nat)
  | unreadablePattern (pattern : String)
  | tooDeep (limit : Nat)
  | unclosedGroup (found : TokenKind)
  | unclosedArguments (found : TokenKind)
  | missingValue
  | unexpectedToken (found : TokenKind)
  | chainedRelations (first next : Relation)
  | missingMember (segment path typeName : String)
  | unknownFunction (name : String)
  | noOverload (name : String) (given : List Ty) (candidates : List Signature)
  | stated (message : String)

inductive TypingFault where
  | notBoolean (role : BooleanRole) (found : Ty)
  | incomparable (left right : Ty) (relation : Relation)
  | unordered (relation : Relation) (family : Family) (type : Ty)
  | stated (message : String)

inductive FormatFault where
  | unbalanced (text : String) (position left right : Nat)
  | noValue (body : String)
  | stated (message : String)

inductive ComparisonFault where
  | unordered (left right : String)
  | stated (message : String)

inductive RegistrationFault where
  | sameParameters (existing : Signature)
  | stated (message : String)

inductive FunctionFault where
  | argument (function : String) (index : Nat) (expected given : String)
  | datePart (value : Int)
  | dateYear (value : Int)
  | noDate (year : Int) (month day hour minute second : Nat)
  | durationRange
  | noMidnight
  | substringStart (start : Int) (length : Nat)
  | substringLength (count : Int) (start length : Nat)
  | patternTooLong (limit : Nat)
  | unreadablePattern
  | noGuid (text : String)

mutual
inductive EvaluationFault where
  | wrongRecord (expected given : String)
  | notBoolean (given : String)
  | wrongResult (function given : String) (expected : Ty)
  | comparisonFailed (cause : ComparisonFault)
  | functionFailed (function : String) (cause : Fault)
  | function (cause : FunctionFault)
  | stated (message : String)

inductive Fault where
  | lexical (residual : String) (position : Nat)
  | grammar (cause : GrammarFault) (span : Span)
  | typing (cause : TypingFault) (span : Span)
  | naming (field constant : String) (segment : Nat) (name : String)
  | format (cause : FormatFault)
  | relation (text : String)
  | comparison (cause : ComparisonFault)
  | evaluation (cause : EvaluationFault)
  | registration (name : String) (cause : RegistrationFault)
  | schema (cause : SchemaFault)
end

namespace Fault

def code : Fault → String
  | .lexical .. => "COND:LEX"
  | .grammar .. => "COND:SYNTAX"
  | .typing .. => "COND:TYPE"
  | .naming .. => "COND:NAMING"
  | .format _ => "COND:FORMAT"
  | .relation _ => "COND:REL_OP"
  | .comparison _ => "COND:INVALID_OP"
  | .evaluation _ => "COND:EVAL"
  | .registration .. => "COND:REGISTRATION"
  | .schema _ => "COND:SCHEMA"

/-- Whether the author of a condition can be told of the fault before any evaluation. -/
def isCompileTime : Fault → Bool
  | .lexical .. => true
  | .grammar .. => true
  | .typing .. => true
  | .naming .. => true
  | _ => false

def firstCharSize (text : String) : Nat :=
  match text.toList with
  | [] => 0
  | char :: _ => char.utf8Size

def span? : Fault → Option Span
  | .lexical residual position =>
    some (Span.ofNat position (position + firstCharSize residual))
  | .grammar _ span => some span
  | .typing _ span => some span
  | _ => none

end Fault

end Proviso
