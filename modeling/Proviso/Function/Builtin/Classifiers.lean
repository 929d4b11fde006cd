import Proviso.Function.Basic
import Proviso.Pattern.Reader
import Proviso.Pattern.Search
import Proviso.Text.Offset

/-!
Functions that tell what kind of thing a text is, by patterns.
-/

namespace Proviso.Builtin

def digitChainText : String := "^\\d+$"

def numberText : String := "^[+-]?(?:\\d+\\.?\\d*|\\.\\d+)(?:[eE][+-]?\\d+)?$"

def domainLabelText : String := "[a-zA-Z0-9](?:[a-zA-Z0-9-]\x7b0,61\x7d[a-zA-Z0-9])?"

def emailText : String :=
  "^[a-zA-Z0-9.!#$%&'*+/=?^_`\x7b|\x7d~-]+@" ++ domainLabelText ++ "(?:\\." ++ domainLabelText ++ ")*$"

def phoneText : String :=
  "^\\+?(?:\\(\\d\x7b1,4\x7d\\)|\\d\x7b1,4\x7d)?(?:[ .-]?\\(?\\d\x7b1,4\x7d\\)?)\x7b2,6\x7d$"

def urlText : String := "^(?:https?|ftp)://[^\\s/$.?#][^\\s]*$"

def classifierAutomaton (text : String) : Automaton :=
  .ofPattern ((Pattern.read? text.toList).getD .empty)

def digitChain : Automaton := classifierAutomaton digitChainText

def decimalNumber : Automaton := classifierAutomaton numberText

def emailAddress : Automaton := classifierAutomaton emailText

def phoneNumber : Automaton := classifierAutomaton phoneText

def webAddress : Automaton := classifierAutomaton urlText

/-- Null is of no kind. -/
def classifyOf (name : String) (automaton : Automaton) : FunctionBody := fun arguments => do
  match ← Argument.string name arguments 0 with
  | some text => pure (.bool (automaton.isMatch text.toList))
  | none => pure (.bool false)

def classifier (name : String) (automaton : Automaton) : Function :=
  .ofBody name [.string] .bool (classifyOf name automaton)

def isDigitChain : Function := classifier "IsDigitChain" digitChain

def isNumber : Function := classifier "IsNumber" decimalNumber

def isEmail : Function := classifier "IsEmail" emailAddress

def isPhone : Function := classifier "IsPhone" phoneNumber

def isUrl : Function := classifier "IsUrl" webAddress

/-! ## Patterns given by the caller -/

def patternLimit : Nat := 1000

def callerPattern (text : String) : Except FunctionFault Pattern :=
  if patternLimit < Text.byteLength text.toList then .error (.patternTooLong patternLimit)
  else
    match Pattern.read? text.toList with
    | some pattern => .ok pattern
    | none => .error .unreadablePattern

/-- Whether a pattern matches somewhere in a text; never, if one of them is null. -/
def isRegexMatchOf : FunctionBody := fun arguments => do
  let text ← Argument.string "IsRegexMatch" arguments 0
  let pattern ← Argument.string "IsRegexMatch" arguments 1
  match text, pattern with
  | some text, some pattern => do
    let pattern ← callerPattern pattern
    pure (.bool ((Automaton.ofPattern pattern).isMatch text.toList))
  | _, _ => pure (.bool false)

def isRegexMatch : Function :=
  .ofBody "IsRegexMatch" [.string, .string] .bool isRegexMatchOf

def classifiers : List Function :=
  [isDigitChain, isNumber, isEmail, isPhone, isUrl, isRegexMatch]

end Proviso.Builtin
