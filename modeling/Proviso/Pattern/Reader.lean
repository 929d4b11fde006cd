import Proviso.Pattern.Footprint
import Proviso.Pattern.Property
import Proviso.Number.Decimal

/-!
The written form of patterns: alternatives with `|`, repetition, groups, bracketed classes
with set operations, escapes, Unicode properties, assertions, and flags that hold from where
they stand to the end of their group. Look-around and references to groups are not part of it.
-/

namespace Proviso

open Number

/-! ## Flags -/

structure PatternFlags where
  caseless : Bool := false
  multiline : Bool := false
  dotAll : Bool := false
  swapGreed : Bool := false
  unicode : Bool := true
  verbose : Bool := false
  carriageReturns : Bool := false

namespace PatternFlags

def set? (flags : PatternFlags) (letter : Char) (value : Bool) : Option PatternFlags :=
  match letter with
  | 'i' => some { flags with caseless := value }
  | 'm' => some { flags with multiline := value }
  | 's' => some { flags with dotAll := value }
  | 'U' => some { flags with swapGreed := value }
  | 'u' => some { flags with unicode := value }
  | 'x' => some { flags with verbose := value }
  | 'R' => some { flags with carriageReturns := value }
  | _ => none

/-- In verbose text, blanks and comments up to the end of their line are skipped. -/
def skip (flags : PatternFlags) (text : List Char) : List Char :=
  if flags.verbose then go (text.length + 1) text else text
where
  go : Nat → List Char → List Char
    | 0, text => text
    | fuel + 1, text =>
      match text with
      | '#' :: rest => go fuel ((rest.dropWhile (· != '\n')).drop 1)
      | char :: rest => if Text.isBlank char then go fuel rest else char :: rest
      | [] => []

end PatternFlags

namespace PatternReader

/-- Letters of flags up to a colon or a closing parenthesis. Every letter may occur once, and
the minus sign once, with a letter behind it. -/
def readFlags? (flags : PatternFlags) (used : List Char) (value : Bool) :
    List Char → Option (PatternFlags × List Char × List Char)
  | [] => none
  | char :: rest =>
    if char = ':' ∨ char = ')' then
      if used.head? = some '-' then none else some (flags, used, char :: rest)
    else if used.contains char then none
    else if char = '-' then readFlags? flags (char :: used) false rest
    else (flags.set? char value).bind fun flags => readFlags? flags (char :: used) value rest

/-! ## Single characters -/

def isMeta (char : Char) : Bool :=
  "\\.+*?()|[]\x7b\x7d^$#&-~".toList.contains char

def isEscapable (char : Char) : Bool :=
  isMeta char || (char.toNat < 0x80 && !char.isAlphanum && char != '<' && char != '>')

def hexValue? (char : Char) : Option Nat :=
  if '0' ≤ char ∧ char ≤ '9' then some (char.toNat - '0'.toNat)
  else if 'a' ≤ char ∧ char ≤ 'f' then some (char.toNat - 'a'.toNat + 10)
  else if 'A' ≤ char ∧ char ≤ 'F' then some (char.toNat - 'A'.toNat + 10)
  else none

def hexNumber? (digits : List Char) : Option Nat :=
  if digits.isEmpty then none
  else digits.foldlM (fun value char => (hexValue? char).map (value * 16 + ·)) 0

def character? (code : Nat) : Option Char :=
  if valid : code.isValidChar then some (Char.ofNatAux code valid) else none

def takeSkipping? (flags : PatternFlags) : Nat → List Char → Option (List Char × List Char)
  | 0, text => some ([], text)
  | count + 1, text =>
    match text with
    | [] => none
    | char :: rest =>
      (takeSkipping? flags count (flags.skip rest)).map fun (chars, rest) => (char :: chars, rest)

def takeBraced? (flags : PatternFlags) : Nat → List Char → Option (List Char × List Char)
  | 0, _ => none
  | fuel + 1, text =>
    match text with
    | [] => none
    | '\x7d' :: rest => some ([], rest)
    | char :: rest =>
      (takeBraced? flags fuel (flags.skip rest)).map fun (chars, rest) => (char :: chars, rest)

/-- A character by its code, in braces or in a number of digits. In text matched byte by byte two
digits stand for a byte, and only an ASCII one is a character. -/
def readHex? (flags : PatternFlags) (digits : Nat) (text : List Char) :
    Option (Char × List Char) := do
  match flags.skip text with
  | '\x7b' :: rest =>
    let (chars, rest) ← takeBraced? flags (rest.length + 1) (flags.skip rest)
    some (← character? (← hexNumber? chars), flags.skip rest)
  | text =>
    let (chars, rest) ← takeSkipping? flags digits text
    let char ← character? (← hexNumber? chars)
    if flags.unicode || digits != 2 || char.toNat < 0x80 then some (char, rest) else none

def negateIf (negated : Bool) (set : CharClass) : CharClass :=
  if negated then .complement set else set

/-- Closes a class under case if the flags say so, then complements it if it is negated. In
text matched byte by byte no class may hold more than ASCII. -/
def finishClass? (flags : PatternFlags) (negated : Bool) (set : CharClass) : Option CharClass :=
  if flags.unicode then
    some (negateIf negated (if flags.caseless then .caseless set else set))
  else if negated then none
  else some (if flags.caseless then .caselessAscii set else set)

inductive Escaped where
  | char (char : Char)
  | set (set : CharClass)
  | assertion (condition : Assertion)

def shortClass? (flags : PatternFlags) (letter : Char) : Option CharClass :=
  let named? :=
    match letter.toLower with
    | 'd' => some (if flags.unicode then CharClass.digit else .asciiDigit)
    | 's' => some (if flags.unicode then CharClass.blank else .asciiBlank)
    | 'w' => some (if flags.unicode then CharClass.word else .asciiWord)
    | _ => none
  named?.bind fun set =>
    if letter.isUpper then (if flags.unicode then some (.complement set) else none) else some set

def cutAtText? (separator : List Char) : List Char → Option (List Char × List Char)
  | [] => none
  | char :: rest =>
    if separator.isPrefixOf (char :: rest) then some ([], (char :: rest).drop separator.length)
    else (cutAtText? separator rest).map fun (before, after) => (char :: before, after)

/-- A property and its value, and whether the characters without it are meant. -/
def propertyNamed? (name : List Char) : Option (CharClass × Bool) :=
  match cutAtText? "!=".toList name with
  | some (property, value) => (CharClass.valued? property value).map (·, true)
  | none =>
    match cutAtText? [':'] name <|> cutAtText? ['='] name with
    | some (property, value) => (CharClass.valued? property value).map (·, false)
    | none => (CharClass.named? name).map (·, false)

def readProperty? (flags : PatternFlags) (negated : Bool) (text : List Char) :
    Option (CharClass × List Char) := do
  let ((set, without), rest) ←
    match flags.skip text with
    | '\x7b' :: rest => do
      let (name, rest) ← takeBraced? flags (rest.length + 1) (flags.skip rest)
      some (← propertyNamed? name, rest)
    | '\\' :: _ => none
    | letter :: rest => (CharClass.named? [letter]).map fun set => ((set, false), flags.skip rest)
    | [] => none
  if flags.unicode then some (← finishClass? flags (negated != without) set, rest) else none

def boundaryNamed? (ascii : Bool) (name : List Char) : Option Assertion :=
  match String.ofList name with
  | "start" => some (.wordStart ascii)
  | "end" => some (.wordEnd ascii)
  | "start-half" => some (.noWordBefore ascii)
  | "end-half" => some (.noWordAfter ascii)
  | _ => none

def isBoundaryNameChar (char : Char) : Bool :=
  char.isAlpha || char = '-'

def readBoundary? (flags : PatternFlags) (text : List Char) : Option (Assertion × List Char) :=
  let plain := (Assertion.wordBoundary !flags.unicode, text)
  match text with
  | '\x7b' :: rest =>
    match flags.skip rest with
    | [] => none
    | char :: following =>
      if isBoundaryNameChar char then
        match takeBraced? flags (following.length + 2) (char :: following) with
        | some (name, rest) => (boundaryNamed? (!flags.unicode) name).map (·, rest)
        | none => none
      else some plain
  | _ => some plain

def readEscape? (flags : PatternFlags) : List Char → Option (Escaped × List Char)
  | [] => none
  | letter :: rest =>
    let here (condition : Assertion) : Option (Escaped × List Char) :=
      some (.assertion condition, rest)
    let char (char : Char) : Option (Escaped × List Char) := some (.char char, rest)
    let ascii := !flags.unicode
    match letter with
    | 'x' => (readHex? flags 2 rest).map fun (char, rest) => (.char char, rest)
    | 'u' => (readHex? flags 4 rest).map fun (char, rest) => (.char char, rest)
    | 'U' => (readHex? flags 8 rest).map fun (char, rest) => (.char char, rest)
    | 'p' => (readProperty? flags false rest).map fun (set, rest) => (.set set, rest)
    | 'P' => (readProperty? flags true rest).map fun (set, rest) => (.set set, rest)
    | 'a' => char '\x07'
    | 'f' => char '\x0c'
    | 't' => char '\t'
    | 'n' => char '\n'
    | 'r' => char '\r'
    | 'v' => char '\x0b'
    | 'A' => here .textStart
    | 'z' => here .textEnd
    | 'b' => (readBoundary? flags rest).map fun (condition, rest) => (.assertion condition, rest)
    | 'B' => here (.noWordBoundary ascii)
    | '<' => here (.wordStart ascii)
    | '>' => here (.wordEnd ascii)
    | _ =>
      if isEscapable letter then char letter
      else (shortClass? flags letter).map fun set => (.set set, rest)

/-! ## Bracketed classes -/

inductive SetOperation where
  | intersection
  | difference
  | symmetricDifference

def SetOperation.apply (operation : SetOperation) (first second : CharClass) : CharClass :=
  match operation with
  | .intersection => .intersection first second
  | .difference => .difference first second
  | .symmetricDifference => .symmetricDifference first second

structure ReadSet where
  set : CharClass := .none
  depth : Nat := 0

/-- A class on the way: the items so far and their number, and the operation that waits for
them. -/
structure OpenClass where
  items : ReadSet := {}
  count : Nat := 0
  waiting : Option (ReadSet × SetOperation) := none

namespace OpenClass

def add (bracket : OpenClass) (set : CharClass) (depth : Nat) : OpenClass :=
  { bracket with
    items := ⟨.union bracket.items.set set, max bracket.items.depth depth⟩
    count := bracket.count + 1 }

def operand (flags : PatternFlags) (set : CharClass) : CharClass :=
  if flags.caseless then
    if flags.unicode then .caseless set else .caselessAscii set
  else set

/-- The set read so far. Several items side by side are one level deeper than one alone. -/
def close (flags : PatternFlags) (bracket : OpenClass) : ReadSet :=
  let depth := bracket.items.depth + (if 1 < bracket.count then 1 else 0)
  match bracket.waiting with
  | none => ⟨bracket.items.set, depth⟩
  | some (first, operation) =>
    ⟨operation.apply (operand flags first.set) (operand flags bracket.items.set),
      max first.depth depth + 1⟩

def apply (flags : PatternFlags) (bracket : OpenClass) (operation : SetOperation) : OpenClass :=
  { waiting := some (bracket.close flags, operation) }

end OpenClass

def readAsciiClass? (text : List Char) : Option (CharClass × Bool × List Char) :=
  match text with
  | '[' :: ':' :: rest =>
    let (negated, rest) :=
      match rest with
      | '^' :: rest => (true, rest)
      | rest => (false, rest)
    match rest.dropWhile (· != ':') with
    | ':' :: ']' :: after => do
      some (← CharClass.asciiNamed? (rest.takeWhile (· != ':')), negated, after)
    | _ => none
  | _ => none

def readItem? (flags : PatternFlags) : List Char → Option (Escaped × List Char)
  | '\\' :: rest => readEscape? flags rest
  | char :: rest => some (.char char, rest)
  | [] => none

def itemClass? (flags : PatternFlags) : Escaped → Option CharClass
  | .char char => if flags.unicode || char.toNat < 0x80 then some (.single char) else none
  | .set set => some set
  | .assertion _ => none

/-- The character that decides whether a hyphen in front of the text stands for a range. In
verbose text it is found behind blanks and the sign of one comment, in the comment if there is
anything in it. -/
def beyondHyphen? (flags : PatternFlags) (text : List Char) : Option Char :=
  if flags.verbose then
    match text.dropWhile Text.isBlank with
    | '#' :: comment => (comment.dropWhile Text.isBlank).head?
    | text => text.head?
  else text.head?

def readRange? (flags : PatternFlags) (text : List Char) : Option (CharClass × List Char) := do
  let (first, rest) ← readItem? flags text
  let rest := flags.skip rest
  match rest with
  | [] => none
  | '-' :: after =>
    let beyond := beyondHyphen? flags after
    if beyond = some ']' ∨ beyond = some '-' then some (← itemClass? flags first, rest)
    else
      let (last, rest) ← readItem? flags (flags.skip after)
      match first, last with
      | .char first, .char last =>
        if first ≤ last ∧ (flags.unicode ∨ last.toNat < 0x80) then some (.range first last, rest)
        else none
      | _, _ => none
  | _ => some (← itemClass? flags first, rest)

/-- Hyphens at the start of a class stand for themselves. -/
def takeHyphens (flags : PatternFlags) : Nat → OpenClass → List Char → OpenClass × List Char
  | 0, bracket, text => (bracket, text)
  | fuel + 1, bracket, text =>
    match text with
    | '-' :: rest => takeHyphens flags fuel (bracket.add (.single '-') 0) (flags.skip rest)
    | _ => (bracket, text)

/-- The start of a class behind its opening bracket: whether it is negated, and the first
hyphens or closing bracket, which stand for themselves there. -/
def openClass (flags : PatternFlags) (text : List Char) : Bool × OpenClass × List Char :=
  let (negated, text) :=
    match flags.skip text with
    | '^' :: rest => (true, flags.skip rest)
    | text => (false, text)
  let (bracket, rest) := takeHyphens flags text.length {} text
  match rest with
  | ']' :: after =>
    if bracket.count = 0 then (negated, bracket.add (.single ']') 0, flags.skip after)
    else (negated, bracket, rest)
  | _ => (negated, bracket, rest)

def readClass? (flags : PatternFlags) :
    Nat → Bool → OpenClass → List Char → Option (ReadSet × List Char)
  | 0, _, _, _ => none
  | fuel + 1, negated, bracket, text =>
    match flags.skip text with
    | [] => none
    | ']' :: rest => do
      let inner := bracket.close flags
      some (⟨← finishClass? flags negated inner.set, inner.depth + 1⟩, rest)
    | '&' :: '&' :: rest => readClass? flags fuel negated (bracket.apply flags .intersection) rest
    | '-' :: '-' :: rest => readClass? flags fuel negated (bracket.apply flags .difference) rest
    | '~' :: '~' :: rest =>
      readClass? flags fuel negated (bracket.apply flags .symmetricDifference) rest
    | '[' :: rest =>
      match readAsciiClass? ('[' :: rest) with
      | some (set, without, rest) => do
        let set ← finishClass? flags without set
        readClass? flags fuel negated (bracket.add set 0) rest
      | none => do
        let (innerNegated, inner, rest) := openClass flags rest
        let (inner, rest) ← readClass? flags fuel innerNegated inner rest
        readClass? flags fuel negated (bracket.add inner.set inner.depth) rest
    | text => do
      let (set, rest) ← readRange? flags text
      readClass? flags fuel negated (bracket.add set 0) rest

/-! ## Sequences and groups -/

structure Piece where
  pattern : Pattern
  depth : Nat := 0

def depthLimit : Nat := 250

structure Scope where
  flags : PatternFlags := {}
  names : List (List Char) := []

def charPattern (flags : PatternFlags) (char : Char) : Pattern :=
  let set := CharClass.single char
  .ofClass (if flags.caseless then
      if flags.unicode then .caseless set else .caselessAscii set
    else set)

def escapedPattern? (flags : PatternFlags) : Escaped → Option Pattern
  | .char char => some (charPattern flags char)
  | .set set => some (.ofClass set)
  | .assertion condition => some (.assertion condition)

def dotPattern? (flags : PatternFlags) : Option Pattern :=
  if !flags.unicode then none
  else if flags.dotAll then some (.ofClass .any)
  else if flags.carriageReturns then
    some (.ofClass (.complement (.ranges [(0x0A, 0x0A), (0x0D, 0x0D)])))
  else some (.ofClass (.complement (.single '\n')))

def startPattern (flags : PatternFlags) : Pattern :=
  .assertion (if flags.multiline then .lineStart flags.carriageReturns else .textStart)

def endPattern (flags : PatternFlags) : Pattern :=
  .assertion (if flags.multiline then .lineEnd flags.carriageReturns else .textEnd)

/-- The pattern of items in sequence, given in reverse; settings of flags have no pattern. -/
def joinSequence (items : List (Option Piece)) : Piece :=
  let pieces := items.reverse.filterMap id
  let depth := pieces.foldl (fun depth piece => max depth piece.depth) 0
  ⟨.concat (pieces.map (·.pattern)), if 1 < items.length then depth + 1 else depth⟩

def joinChoice : List Piece → Piece
  | [piece] => piece
  | pieces =>
    let depth := pieces.foldl (fun depth piece => max depth piece.depth) 0
    ⟨.alternation (pieces.map (·.pattern)), depth + 1⟩

def repeated (piece : Piece) (least : Nat) (most : Option Nat) (greedy : Bool) : Piece :=
  ⟨.repeat piece.pattern least most greedy, piece.depth + 1⟩

/-- A count between blanks. In verbose text its digits may stand apart. -/
def readCount? (flags : PatternFlags) (text : List Char) : Option (Nat × List Char) :=
  let (digits, rest) := takeDigits text.length (text.dropWhile Text.isBlank)
  if digits.isEmpty then none
  else
    let count := digitsValue digits
    if 2 ^ 32 ≤ count then none else some (count, dropBlanks rest.length rest)
where
  takeDigits : Nat → List Char → List Char × List Char
    | 0, text => ([], text)
    | fuel + 1, text =>
      match text with
      | char :: rest =>
        if isAsciiDigit char then
          let (digits, rest) := takeDigits fuel (flags.skip rest)
          (char :: digits, rest)
        else ([], text)
      | [] => ([], [])
  dropBlanks : Nat → List Char → List Char
    | 0, text => text
    | fuel + 1, text =>
      match text with
      | char :: rest => if Text.isBlank char then dropBlanks fuel (flags.skip rest) else text
      | [] => []

def readCounts? (flags : PatternFlags) (text : List Char) :
    Option (Nat × Option Nat × List Char) := do
  let (least, rest) ← readCount? flags (flags.skip text)
  match rest with
  | '\x7d' :: rest => some (least, some least, rest)
  | ',' :: rest =>
    match flags.skip rest with
    | '\x7d' :: rest => some (least, none, rest)
    | rest =>
      let (most, rest) ← readCount? flags rest
      match rest with
      | '\x7d' :: rest => if least ≤ most then some (least, some most, rest) else none
      | _ => none
  | _ => none

def isNameStart (char : Char) : Bool :=
  char = '_' || Text.alphabeticRanges.contains char

def isNameChar (char : Char) : Bool :=
  isNameStart char || char = '.' || char = '[' || char = ']' || Text.isDigit char ||
    Text.Category.letterNumber.contains char || Text.Category.otherNumber.contains char

def readName? (text : List Char) : Option (List Char × List Char) :=
  let name := text.takeWhile (· != '>')
  match name, text.dropWhile (· != '>') with
  | first :: following, '>' :: rest =>
    if isNameStart first && following.all isNameChar then some (first :: following, rest) else none
  | _, _ => none

/-- The item that a repetition follows; there is none at the start or behind flags. -/
def repeatLast? (items : List (Option Piece)) (repetition : Piece → Piece) :
    Option (List (Option Piece)) :=
  match items with
  | some piece :: rest => some (some (repetition piece) :: rest)
  | _ => none

def readGreed (flags : PatternFlags) (text : List Char) : Bool × List Char :=
  match text with
  | '?' :: rest => (flags.swapGreed, rest)
  | _ => (!flags.swapGreed, text)

mutual
def readChoice? : Nat → Scope → List Piece → List (Option Piece) → List Char →
    Option (Piece × Scope × List Char)
  | 0, _, _, _, _ => none
  | fuel + 1, scope, choices, items, text =>
    let flags := scope.flags
    let continueWith (piece : Pattern) (rest : List Char) :=
      readChoice? fuel scope choices (some ⟨piece, 0⟩ :: items) rest
    let repeatWith (least : Nat) (most : Option Nat) (rest : List Char) :=
      let (greedy, rest) := readGreed flags rest
      (repeatLast? items fun piece => repeated piece least most greedy).bind fun items =>
        readChoice? fuel scope choices items rest
    match flags.skip text with
    | [] => some (joinChoice (joinSequence items :: choices).reverse, scope, [])
    | ')' :: rest => some (joinChoice (joinSequence items :: choices).reverse, scope, ')' :: rest)
    | '|' :: rest => readChoice? fuel scope (joinSequence items :: choices) [] rest
    | '(' :: rest => do
      let (item, scope, rest) ← readGroup? fuel scope (flags.skip rest)
      readChoice? fuel scope choices (item :: items) rest
    | '[' :: rest => do
      let (negated, bracket, rest) := openClass flags rest
      let (read, rest) ← readClass? flags fuel negated bracket rest
      readChoice? fuel scope choices (some ⟨.ofClass read.set, read.depth⟩ :: items) rest
    | '*' :: rest => repeatWith 0 none rest
    | '+' :: rest => repeatWith 1 none rest
    | '?' :: rest => repeatWith 0 (some 1) rest
    | '\x7b' :: rest => do
      let (least, most, rest) ← readCounts? flags rest
      repeatWith least most (flags.skip rest)
    | '\\' :: rest => do
      let (escaped, rest) ← readEscape? flags rest
      continueWith (← escapedPattern? flags escaped) rest
    | '.' :: rest => do continueWith (← dotPattern? flags) rest
    | '^' :: rest => continueWith (startPattern flags) rest
    | '$' :: rest => continueWith (endPattern flags) rest
    | char :: rest => continueWith (charPattern flags char) rest

/-- A group behind its opening parenthesis, or a setting of flags, which gives no piece. -/
def readGroup? : Nat → Scope → List Char → Option (Option Piece × Scope × List Char)
  | 0, _, _ => none
  | fuel + 1, scope, text =>
    let body (inner : Scope) (text : List Char) : Option (Option Piece × Scope × List Char) := do
      let (piece, inner, rest) ← readChoice? fuel inner [] [] text
      match rest with
      | ')' :: rest =>
        some (some ⟨piece.pattern, piece.depth + 1⟩, ⟨scope.flags, inner.names⟩, rest)
      | _ => none
    let captured (inner : Scope) (text : List Char) : Option (Option Piece × Scope × List Char) :=
      (body inner text).map fun (piece, rest) =>
        (piece.map fun piece => { piece with pattern := .group piece.pattern }, rest)
    let named (text : List Char) : Option (Option Piece × Scope × List Char) := do
      let (name, rest) ← readName? text
      if scope.names.contains name then none
      else captured { scope with names := name :: scope.names } rest
    match text with
    | '?' :: '=' :: _ => none
    | '?' :: '!' :: _ => none
    | '?' :: '<' :: '=' :: _ => none
    | '?' :: '<' :: '!' :: _ => none
    | '?' :: 'P' :: '<' :: rest => named rest
    | '?' :: '<' :: rest => named rest
    | '?' :: rest => do
      let (flags, used, rest) ← readFlags? scope.flags [] true rest
      match rest with
      | ':' :: rest => body { scope with flags := flags } rest
      | ')' :: rest => if used.isEmpty then none else some (none, { scope with flags := flags }, rest)
      | _ => none
    | text => captured scope text
end

end PatternReader

namespace Pattern

def read? (text : List Char) : Option Pattern := do
  let (piece, _, rest) ← PatternReader.readChoice? (2 * text.length + 2) {} [] [] text
  if rest.isEmpty && piece.depth ≤ PatternReader.depthLimit && piece.pattern.fits then
    some piece.pattern
  else none

end Pattern

end Proviso
