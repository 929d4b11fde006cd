import Proviso.Json.Basic
import Proviso.Number.Shortest

/-!
JSON text as it is written: numbers keep their digits, objects all their entries. Data is made
of it in a second step, which decides what a number is and which of two equal keys counts.
-/

namespace Proviso.Json

open Proviso.Number

structure NumberSource where
  negative : Bool
  whole : List Char
  fraction : List Char
  exponent : Option (Bool × List Char)

/-- JSON as written. A string whose escapes spell half of a surrogate pair has no value. -/
inductive Source where
  | null
  | bool (value : Bool)
  | number (source : NumberSource)
  | string (value : Option String)
  | array (items : List Source)
  | object (entries : List (String × Source))

/-! ## Reading text -/

def isSpace (char : Char) : Bool :=
  char = ' ' || char = '\n' || char = '\r' || char = '\t'

def skipSpace (text : List Char) : List Char :=
  text.dropWhile isSpace

def expectWord? (word text : List Char) : Option (List Char) :=
  if word.isPrefixOf text then some (text.drop word.length) else none

def hexDigit? (char : Char) : Option Nat :=
  if '0' ≤ char ∧ char ≤ '9' then some (char.toNat - '0'.toNat)
  else if 'a' ≤ char ∧ char ≤ 'f' then some (char.toNat - 'a'.toNat + 10)
  else if 'A' ≤ char ∧ char ≤ 'F' then some (char.toNat - 'A'.toNat + 10)
  else none

def readUnit? : List Char → Option (Nat × List Char)
  | a :: b :: c :: d :: rest => do
    let high := (← hexDigit? a) * 16 + (← hexDigit? b)
    let low := (← hexDigit? c) * 16 + (← hexDigit? d)
    some (high * 256 + low, rest)
  | _ => none

def codePoint? (code : Nat) : Option Char :=
  if valid : code.isValidChar then some (Char.ofNatAux code valid) else none

/-- A character written as one code unit or as a pair of surrogates; half a pair is none. -/
def readCodePoint? (text : List Char) : Option (Option Char × List Char) := do
  let (unit, rest) ← readUnit? text
  if 0xD800 ≤ unit ∧ unit < 0xDC00 then
    match rest with
    | '\\' :: 'u' :: rest => do
      let (second, rest) ← readUnit? rest
      if 0xDC00 ≤ second ∧ second < 0xE000 then
        some (codePoint? (0x10000 + (unit - 0xD800) * 0x400 + (second - 0xDC00)), rest)
      else some (none, rest)
    | rest => some (none, rest)
  else some (codePoint? unit, rest)

def simpleEscape? (char : Char) : Option Char :=
  match char with
  | '"' => some '"'
  | '\\' => some '\\'
  | '/' => some '/'
  | 'b' => some '\x08'
  | 'f' => some '\x0c'
  | 'n' => some '\n'
  | 'r' => some '\r'
  | 't' => some '\t'
  | _ => none

def readString? : Nat → Option (List Char) → List Char → Option (Option String × List Char)
  | 0, _, _ => none
  | fuel + 1, collected, text =>
    match text with
    | [] => none
    | '"' :: rest => some (collected.map fun chars => String.ofList chars.reverse, rest)
    | '\\' :: 'u' :: rest => do
      let (char, rest) ← readCodePoint? rest
      readString? fuel (char.bind fun char => collected.map (char :: ·)) rest
    | '\\' :: mark :: rest => do
      let char ← simpleEscape? mark
      readString? fuel (collected.map (char :: ·)) rest
    | char :: rest =>
      if char.toNat < 0x20 ∨ char = '\\' then none
      else readString? fuel (collected.map (char :: ·)) rest

def readExponent? (text : List Char) : Option (Option (Bool × List Char) × List Char) :=
  match text with
  | mark :: rest =>
    if mark = 'e' ∨ mark = 'E' then
      let (negative, rest) :=
        match rest with
        | '+' :: rest => (false, rest)
        | '-' :: rest => (true, rest)
        | rest => (false, rest)
      let digits := rest.takeWhile isAsciiDigit
      if digits.isEmpty then none
      else some (some (negative, digits), rest.dropWhile isAsciiDigit)
    else some (none, text)
  | [] => some (none, [])

/-- A number has no superfluous leading zero, and digits on both sides of its point. -/
def readNumber? (text : List Char) : Option (NumberSource × List Char) := do
  let (negative, rest) :=
    match text with
    | '-' :: rest => (true, rest)
    | rest => (false, rest)
  let whole := rest.takeWhile isAsciiDigit
  if whole.isEmpty ∨ (whole.head? = some '0' ∧ 1 < whole.length) then none
  else
    let (fraction, rest) ←
      match rest.dropWhile isAsciiDigit with
      | '.' :: rest =>
        let digits := rest.takeWhile isAsciiDigit
        if digits.isEmpty then none else some (digits, rest.dropWhile isAsciiDigit)
      | rest => some ([], rest)
    let (exponent, rest) ← readExponent? rest
    some (⟨negative, whole, fraction, exponent⟩, rest)

mutual
def readValue? : Nat → List Char → Option (Source × List Char)
  | 0, _ => none
  | fuel + 1, text =>
    match skipSpace text with
    | '[' :: rest =>
      match skipSpace rest with
      | ']' :: rest => some (.array [], rest)
      | rest => (readItems? fuel rest).map fun (items, rest) => (.array items, rest)
    | '\x7b' :: rest =>
      match skipSpace rest with
      | '\x7d' :: rest => some (.object [], rest)
      | rest => (readEntries? fuel rest).map fun (entries, rest) => (.object entries, rest)
    | '"' :: rest =>
      (readString? (rest.length + 1) (some []) rest).map fun (value, rest) => (.string value, rest)
    | 'n' :: rest => (expectWord? "ull".toList rest).map fun rest => (.null, rest)
    | 't' :: rest => (expectWord? "rue".toList rest).map fun rest => (.bool true, rest)
    | 'f' :: rest => (expectWord? "alse".toList rest).map fun rest => (.bool false, rest)
    | text => (readNumber? text).map fun (source, rest) => (.number source, rest)

def readItems? : Nat → List Char → Option (List Source × List Char)
  | 0, _ => none
  | fuel + 1, text => do
    let (item, rest) ← readValue? fuel text
    match skipSpace rest with
    | ',' :: rest =>
      let (items, rest) ← readItems? fuel rest
      some (item :: items, rest)
    | ']' :: rest => some ([item], rest)
    | _ => none

def readEntries? : Nat → List Char → Option (List (String × Source) × List Char)
  | 0, _ => none
  | fuel + 1, text => do
    match skipSpace text with
    | '"' :: rest =>
      let (key, rest) ← readString? (rest.length + 1) (some []) rest
      let key ← key
      match skipSpace rest with
      | ':' :: rest =>
        let (value, rest) ← readValue? fuel rest
        match skipSpace rest with
        | ',' :: rest =>
          let (entries, rest) ← readEntries? fuel rest
          some ((key, value) :: entries, rest)
        | '\x7d' :: rest => some ([(key, value)], rest)
        | _ => none
      | _ => none
    | _ => none
end

def Source.read? (text : List Char) : Option Source := do
  let (source, rest) ← readValue? (text.length + 1) text
  if (skipSpace rest).isEmpty then some source else none

/-! ## Numbers -/

def wordLimit : Nat := 2 ^ 64 - 1

/-- Appends digits to a significand as long as it fits an unsigned word; gives back the digits
that do not. -/
def appendDigits (significand : Nat) : List Char → Nat × List Char
  | [] => (significand, [])
  | char :: rest =>
    let next := significand * 10 + (char.toNat - '0'.toNat)
    if next ≤ wordLimit then appendDigits next rest else (significand, char :: rest)

def isInfinite (number : Float) : Bool :=
  match magnitude number with
  | .infinite => true
  | _ => false

/-- Scales by a power of ten in steps that a double can hold; too large a result is none. -/
def scale? : Nat → Float → Int → Option Float
  | 0, number, _ => some number
  | steps + 1, number, exponent =>
    if exponent.natAbs ≤ 308 then
      let power := Float.ofScientific 1 false exponent.natAbs
      if 0 ≤ exponent then
        let scaled := number * power
        if isInfinite scaled then none else some scaled
      else some (number / power)
    else if number == 0.0 then some number
    else if 0 ≤ exponent then none
    else scale? steps (number / Float.ofScientific 1 false 308) (exponent + 308)

def exponentLimit : Nat := 2 ^ 31 - 1

def NumberSource.toFloat? (source : NumberSource) : Option Float :=
  let (leading, excess) := appendDigits 0 source.whole
  let (significand, dropped) := appendDigits leading source.fraction
  let places : Int := excess.length - (source.fraction.length - dropped.length : Nat)
  let magnitude :=
    match source.exponent with
    | none => scale? 4 (Float.ofNat significand) places
    | some (negative, digits) =>
      let exponent := digitsValue digits
      if exponentLimit < exponent then
        if significand ≠ 0 ∧ !negative then none else some 0.0
      else scale? 4 (Float.ofNat significand) (if negative then places - exponent else places + exponent)
  magnitude.map fun number => if source.negative then -number else number

/-- A number without point and exponent that fits a word is whole, minus zero excepted. -/
def NumberSource.toJson? (source : NumberSource) : Option Json :=
  let value := digitsValue source.whole
  if source.fraction.isEmpty && source.exponent.isNone then
    if !source.negative && value ≤ wordLimit then some (.int value)
    else if source.negative && 0 < value && value ≤ 2 ^ 63 then some (.int (-value))
    else source.toFloat?.map .float
  else source.toFloat?.map .float

/-! ## Data -/

def depthLimit : Nat := 127

mutual
def Source.toJson? (depth : Nat) : Source → Option Json
  | .null => some .null
  | .bool value => some (.bool value)
  | .number source => source.toJson?
  | .string value => value.map .string
  | .array items => if depth = 0 then none else (itemsToJson? (depth - 1) items).map .array
  | .object entries =>
    if depth = 0 then none
    else (entriesToJson? (depth - 1) entries).map fun entries => .object (sortEntries entries)

def itemsToJson? (depth : Nat) : List Source → Option (List Json)
  | [] => some []
  | item :: rest => do
    let item ← item.toJson? depth
    let rest ← itemsToJson? depth rest
    some (item :: rest)

def entriesToJson? (depth : Nat) : List (String × Source) → Option (List (String × Json))
  | [] => some []
  | (key, value) :: rest => do
    let value ← value.toJson? depth
    let rest ← entriesToJson? depth rest
    some ((key, value) :: rest)
end

def read? (text : String) : Option Json :=
  (Source.read? text.toList).bind (·.toJson? depthLimit)

end Proviso.Json
