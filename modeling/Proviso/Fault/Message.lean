import Proviso.Fault.Basic

/-!
The wording of faults.
-/

namespace Proviso

def Span.text (span : Span) : String :=
  s!"{Number.text span.start.toNat}..{Number.text span.stop.toNat}"

/-- Stands where the words follow in which a pattern is rejected; these are left out. -/
def unreadablePatternText : String := "<regex error>"

/-- Stands where the words follow in which an identifier is rejected; these are left out. -/
def unreadableGuidText : String := "<uuid error>"

def BooleanRole.text : BooleanRole → String
  | .condition => "condition"
  | .orOperand => "operand of '||'"
  | .andOperand => "operand of '&&'"
  | .notOperand => "operand of '!'"

def GrammarFault.message : GrammarFault → String
  | .tooLong length limit =>
    s!"expression is {Number.text length} bytes long, the limit is {Number.text limit}"
  | .unreadablePattern pattern => s!"invalid token pattern '{pattern}': {unreadablePatternText}"
  | .tooDeep limit => s!"maximum nesting depth ({Number.text limit}) exceeded"
  | .unclosedGroup found => s!"unmatched parenthesis, expected ')', found {found.text}"
  | .unclosedArguments found => s!"expected ',' or ')' in argument list, found {found.text}"
  | .missingValue => "unexpected end of input, expected a value"
  | .unexpectedToken found => s!"unexpected token '{found.text}'"
  | .chainedRelations first next =>
    s!"relational operators cannot be chained ('{first.text}' followed by '{next.text}')"
  | .missingMember segment path typeName =>
    s!"missing member '{segment}' in '{path}' on type '{typeName}'"
  | .unknownFunction name => s!"unknown function '{name}'"
  | .noOverload name given candidates =>
    let types := Text.joined ", " (given.map (·.text))
    let shown := Text.joined "; " (candidates.map fun signature => name ++ signature.text)
    s!"no overload of '{name}' accepts ({types}); candidates: {shown}"
  | .stated message => message

def TypingFault.message : TypingFault → String
  | .notBoolean role found => s!"{role.text} must be a non-nullable bool, found {found.text}"
  | .incomparable left right relation =>
    s!"cannot compare {left.text} with {right.text} using '{relation.text}'"
  | .unordered relation family type =>
    s!"operator '{relation.text}' is not defined for {family.name} operands ({type.text})"
  | .stated message => message

def FormatFault.message : FormatFault → String
  | .unbalanced text position left right =>
    s!"unbalanced braces in '{text}' at position {Number.text position}: " ++
      s!"{Number.text left} opening vs {Number.text right} closing"
  | .noValue body => "no value for placeholder '\x7b" ++ body ++ "\x7d'"
  | .stated message => message

def ComparisonFault.message : ComparisonFault → String
  | .unordered left right => s!"cannot order {left} against {right}"
  | .stated message => message

def RegistrationFault.message : RegistrationFault → String
  | .sameParameters existing => s!"signature {existing.text} is already registered"
  | .stated message => message

def paddedText (width number : Nat) : String :=
  String.ofList (Number.paddedDecimal width number)

/-- At least four characters, the sign among them. -/
def paddedYear (year : Int) : String :=
  if year < 0 then "-" ++ paddedText 3 year.natAbs else paddedText 4 year.natAbs

def FunctionFault.message : FunctionFault → String
  | .argument function index expected given =>
    s!"{function}: argument {Number.text (index + 1)} must be {expected}, got {given}"
  | .datePart value => s!"Date: {Number.text value} is out of range"
  | .dateYear value => s!"Date: year {Number.text value} is out of range"
  | .noDate year month day hour minute second =>
    s!"Date: {paddedYear year}-{paddedText 2 month}-{paddedText 2 day} " ++
      s!"{paddedText 2 hour}:{paddedText 2 minute}:{paddedText 2 second} is not a valid date"
  | .durationRange => "TimeSpan: duration out of range"
  | .noMidnight => "Today: midnight is not representable"
  | .substringStart start length =>
    s!"Substring: start {Number.text start} is outside a string of length {Number.text length}"
  | .substringLength count start length =>
    s!"Substring: length {Number.text count} from {Number.text start} " ++
      s!"exceeds a string of length {Number.text length}"
  | .patternTooLong limit => s!"IsRegexMatch: pattern exceeds {Number.text limit} bytes"
  | .unreadablePattern => s!"IsRegexMatch: {unreadablePatternText}"
  | .noGuid text => s!"Guid: '{text}' is not a GUID: {unreadableGuidText}"

mutual
def EvaluationFault.message : EvaluationFault → String
  | .wrongRecord expected given => s!"predicate for '{expected}' cannot evaluate a '{given}' record"
  | .notBoolean given => s!"expected a bool, got {given}"
  | .wrongResult function given expected =>
    s!"function '{function}' returned {given} where {expected.text} was declared"
  | .comparisonFailed cause => s!"comparison failed: Invalid operation: {cause.message}"
  | .functionFailed function cause => s!"function '{function}' failed: {cause.message}"
  | .function cause => cause.message
  | .stated message => message

def Fault.message : Fault → String
  | .lexical residual position =>
    s!"Lexical error at position {Number.text position}: unexpected input '{residual}'"
  | .grammar cause span => s!"Syntax error at {span.text}: {cause.message}"
  | .typing cause span => s!"Type consistency error at {span.text}: {cause.message}"
  | .naming field constant segment name =>
    s!"Naming collision between field '{field}' and constant '{constant}' " ++
      s!"at segment {Number.text segment} ('{name}')"
  | .format cause => s!"Format error: {cause.message}"
  | .relation text => s!"Invalid relational operator '{text}'"
  | .comparison cause => s!"Invalid operation: {cause.message}"
  | .evaluation cause => s!"Evaluation error: {cause.message}"
  | .registration name cause => s!"Registration error for '{name}': {cause.message}"
  | .schema cause => s!"Schema error: {cause.message}"
end

end Proviso
