import Proviso.Function.Basic
import Proviso.Text.Order

/-!
Functions on texts. Null is taken for a missing text and is never an error.
-/

namespace Proviso.Builtin

open Text

def lengthOf : FunctionBody := fun arguments => do
  let text ← Argument.string "Length" arguments 0
  let length := (text.map fun text => text.toList.length).getD 0
  pure (.int (Int64.ofNat length))

def length : Function :=
  .ofBody "Length" [.string] .int lengthOf

def trimOf : FunctionBody := fun arguments => do
  match ← Argument.string "Trim" arguments 0 with
  | some text => pure (.string (String.ofList (Text.trim text.toList)))
  | none => pure .null

def trim : Function :=
  .ofBody "Trim" [.string] (.nullable .string) trimOf

/-! ## Putting together and taking apart -/

/-- The texts of the arguments from an index on, `count` of them, one behind the other. -/
def concatFrom (arguments : List Value) : Nat → Nat → Except FunctionFault (List Char)
  | 0, _ => pure []
  | count + 1, index => do
    let text ← Argument.string "Concat" arguments index
    let rest ← concatFrom arguments count (index + 1)
    pure ((text.getD "").toList ++ rest)

def concatOf : FunctionBody := fun arguments => do
  let text ← concatFrom arguments arguments.length 0
  pure (.string (String.ofList text))

def concat : Function :=
  .ofBody "Concat" [.string, .string] .string concatOf

def concatThree : Function :=
  .ofBody "Concat" [.string, .string, .string] .string concatOf

/-- Where a stretch ends. Positions in a text are words of 64 bits. -/
def stretchEnd (start count : Nat) : Nat :=
  (UInt64.ofNat start + UInt64.ofNat count).toNat

/-- A stretch of a text counted in characters, which must lie within the text; without a
length it goes on to the end. -/
def substringOf : FunctionBody := fun arguments => do
  match ← Argument.string "Substring" arguments 0 with
  | none => pure .null
  | some text =>
    let chars := text.toList
    let total := chars.length
    let start ← Argument.int "Substring" arguments 1
    if start < 0 ∨ (total : Int) < start then throw (.substringStart start total)
    else
      let rest := chars.drop start.toNat
      if 2 < arguments.length then
        let count ← Argument.int "Substring" arguments 2
        if count < 0 ∨ total < stretchEnd start.toNat count.toNat then
          throw (.substringLength count start.toNat total)
        else pure (.string (String.ofList (rest.take count.toNat)))
      else pure (.string (String.ofList rest))

def substring : Function :=
  .ofBody "Substring" [.string, .int] (.nullable .string) substringOf

def substringOfLength : Function :=
  .ofBody "Substring" [.string, .int, .int] (.nullable .string) substringOf

/-! ## Comparing -/

/-- Null comes before every text. -/
def ordinal (caseSensitive : Bool) : Option String → Option String → Int64
  | none, none => 0
  | none, some _ => -1
  | some _, none => 1
  | some first, some second =>
    match order (comparable caseSensitive first) (comparable caseSensitive second) with
    | .lt => -1
    | .eq => 0
    | .gt => 1

def compareOf (name : String) (caseSensitive : Bool) : FunctionBody := fun arguments => do
  let first ← Argument.string name arguments 0
  let second ← Argument.string name arguments 1
  pure (.int (ordinal caseSensitive first second))

def compareOrdinal : Function :=
  .ofBody "CompareOrdinal" [.string, .string] .int (compareOf "CompareOrdinal" true)

def compareOrdinalIgnoreCase : Function :=
  .ofBody "CompareOrdinalIgnoreCase" [.string, .string] .int
    (compareOf "CompareOrdinalIgnoreCase" false)

/-! ## Searching -/

def testOf (name : String) (caseSensitive : Bool) (test : List Char → List Char → Bool) :
    FunctionBody := fun arguments => do
  let first ← Argument.string name arguments 0
  let second ← Argument.string name arguments 1
  match first, second with
  | some first, some second =>
    pure (.bool (test (comparable caseSensitive first) (comparable caseSensitive second)))
  | _, _ => pure (.bool false)

def testFunction (name : String) (caseSensitive : Bool) (test : List Char → List Char → Bool) :
    Function :=
  .ofBody name [.string, .string] .bool (testOf name caseSensitive test)

def startsWithText (text start : List Char) : Bool :=
  start.isPrefixOf text

def endsWithText (text stop : List Char) : Bool :=
  stop.isSuffixOf text

def containsText (text part : List Char) : Bool :=
  occursIn part text

def startsWith : Function := testFunction "StartsWith" true startsWithText

def startsWithIgnoreCase : Function := testFunction "StartsWithIgnoreCase" false startsWithText

def endsWith : Function := testFunction "EndsWith" true endsWithText

def endsWithIgnoreCase : Function := testFunction "EndsWithIgnoreCase" false endsWithText

def contains : Function := testFunction "Contains" true containsText

def containsIgnoreCase : Function := testFunction "ContainsIgnoreCase" false containsText

def isNullOrWhiteSpaceOf : FunctionBody := fun arguments => do
  let text ← Argument.string "IsNullOrWhiteSpace" arguments 0
  pure (.bool ((text.map fun text => blank text.toList).getD true))

def isNullOrWhiteSpace : Function :=
  .ofBody "IsNullOrWhiteSpace" [.string] .bool isNullOrWhiteSpaceOf

def textFunctions : List Function :=
  [length, trim, concat, concatThree, compareOrdinal, compareOrdinalIgnoreCase,
   startsWith, startsWithIgnoreCase, endsWith, endsWithIgnoreCase, contains, containsIgnoreCase,
   substring, substringOfLength, isNullOrWhiteSpace]

end Proviso.Builtin
