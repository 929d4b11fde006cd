import Proviso.Calendar.Moment
import Proviso.Text.Blank

/-!
Reading a moment from text: an internet time stamp (RFC 3339), which names an offset from
universal time, or else the first of a list of common layouts that fits.
-/

namespace Proviso.Calendar

open Proviso.Text Proviso.Number

/-! ## Digits -/

/-- Reads at most `most` digits, at least one, behind the value already read. -/
def takeNumber? : Nat → List Char → Option (Nat × List Char)
  | most, text =>
    let digits := (text.take most).takeWhile isAsciiDigit
    if digits.isEmpty then none else some (digitsValue digits, text.drop digits.length)

def takeDigits? (count : Nat) (text : List Char) : Option (Nat × List Char) :=
  let digits := (text.take count).takeWhile isAsciiDigit
  if digits.length = count then some (digitsValue digits, text.drop count) else none

def expect? (char : Char) : List Char → Option (List Char)
  | first :: rest => if first = char then some rest else none
  | [] => none

/-! ## Layouts -/

inductive LayoutItem where
  | year
  | month
  | day
  | hour
  | minute
  | second
  | mark (char : Char)
  | blanks

structure LayoutParts where
  year : Int := 0
  month : Nat := 0
  day : Nat := 0
  hour : Nat := 0
  minute : Nat := 0
  second : Nat := 0

def LayoutParts.toMoment? (parts : LayoutParts) : Option Moment :=
  Moment.ofParts? parts.year parts.month parts.day parts.hour parts.minute parts.second 0

/-- A year has up to four digits, and any number of them behind a sign. -/
def takeYear? : List Char → Option (Int × List Char)
  | '-' :: rest => (takeNumber? rest.length rest).map fun (value, rest) => (-(value : Int), rest)
  | '+' :: rest => (takeNumber? rest.length rest).map fun (value, rest) => ((value : Int), rest)
  | text => (takeNumber? 4 text).map fun (value, rest) => ((value : Int), rest)

/-- One item of a layout. White space is skipped in front of every number. -/
def LayoutItem.read? (item : LayoutItem) (parts : LayoutParts) (text : List Char) :
    Option (LayoutParts × List Char) :=
  let number (store : Nat → LayoutParts) :=
    (takeNumber? 2 (trimStart text)).map fun (value, rest) => (store value, rest)
  match item with
  | .year => (takeYear? (trimStart text)).map fun (value, rest) => ({ parts with year := value }, rest)
  | .month => number fun value => { parts with month := value }
  | .day => number fun value => { parts with day := value }
  | .hour => number fun value => { parts with hour := value }
  | .minute => number fun value => { parts with minute := value }
  | .second => number fun value => { parts with second := value }
  | .mark char => (expect? char text).map fun rest => (parts, rest)
  | .blanks => some (parts, trimStart text)

def readItems? : List LayoutItem → LayoutParts → List Char → Option Moment
  | [], parts, [] => parts.toMoment?
  | [], _, _ :: _ => none
  | item :: items, parts, text =>
    (item.read? parts text).bind fun (parts, rest) => readItems? items parts rest

def readLayout? (items : List LayoutItem) (text : List Char) : Option Moment :=
  readItems? items {} text

def dashedDate : List LayoutItem :=
  [.year, .mark '-', .month, .mark '-', .day]

def slashedDate : List LayoutItem :=
  [.year, .mark '/', .month, .mark '/', .day]

def dottedDate : List LayoutItem :=
  [.day, .mark '.', .month, .mark '.', .year]

def shortClock : List LayoutItem :=
  [.hour, .mark ':', .minute]

def clock : List LayoutItem :=
  shortClock ++ [.mark ':', .second]

/-- The layouts in the order in which they are tried; a day alone stands for its midnight. -/
def layouts : List (List LayoutItem) :=
  [dashedDate ++ .blanks :: clock,
   dashedDate ++ .mark 'T' :: clock,
   dashedDate ++ .blanks :: shortClock,
   slashedDate ++ .blanks :: clock,
   dottedDate ++ .blanks :: clock,
   dashedDate, slashedDate, dottedDate]

/-! ## Time stamps -/

/-- The fraction of a second in nanoseconds; digits beyond the ninth are dropped. -/
def takeFraction? (text : List Char) : Option (Nat × List Char) :=
  let digits := (text.take 9).takeWhile isAsciiDigit
  if digits.isEmpty then none
  else some (digitsValue digits * 10 ^ (9 - digits.length),
    (text.drop digits.length).dropWhile isAsciiDigit)

/-- The offset from universal time in minutes: a letter for none, or a sign, hours and minutes. -/
def takeOffset? : List Char → Option (Int × List Char)
  | 'Z' :: rest => some (0, rest)
  | 'z' :: rest => some (0, rest)
  | sign :: rest => do
    let negative ←
      if sign = '+' then some false
      else if sign = '-' ∨ sign = '\u2212' then some true
      else none
    let (hours, rest) ← takeDigits? 2 rest
    let rest ← expect? ':' rest
    let (minutes, rest) ← takeDigits? 2 rest
    if 59 < minutes ∨ 23 < hours then none
    else
      let offset : Int := hours * 60 + minutes
      some (if negative then -offset else offset, rest)
  | [] => none

def readStamp? (text : List Char) : Option Moment := do
  let (year, rest) ← takeDigits? 4 text
  let rest ← expect? '-' rest
  let (month, rest) ← takeDigits? 2 rest
  let rest ← expect? '-' rest
  let (day, rest) ← takeDigits? 2 rest
  let rest ← expect? 'T' rest <|> expect? 't' rest <|> expect? ' ' rest
  let (hour, rest) ← takeDigits? 2 rest
  let rest ← expect? ':' rest
  let (minute, rest) ← takeDigits? 2 rest
  let rest ← expect? ':' rest
  let (second, rest) ← takeDigits? 2 rest
  let (nanosecond, rest) ←
    match rest with
    | '.' :: rest => takeFraction? rest
    | rest => some (0, rest)
  let (offset, rest) ← takeOffset? rest
  if rest.isEmpty then
    (← Moment.ofParts? year month day hour minute second nanosecond).earlier? offset
  else none

/-! ## Moments -/

def readMoment? (text : List Char) : Option Moment :=
  let text := trim text
  readStamp? text <|> layouts.findSome? (readLayout? · text)

end Proviso.Calendar
