import Proviso.Fault.Basic
import Proviso.Number.FloatReading
import Proviso.Pattern.Reader
import Proviso.Pattern.Search

/-!
Cutting the text of a condition into tokens. A lexer is a table of rules in order: at every
place of the text the first rule whose pattern matches some of what is left makes the next
token, even where a later rule would match more of it.
-/

namespace Proviso

open Text (byteLength)

structure LexerRule where
  pattern : Pattern
  type : TokenType
  automaton : Automaton := .ofPattern pattern
  automaton_eq : automaton = .ofPattern pattern := by rfl

abbrev Lexer := List LexerRule

namespace Lexer

/-! ## Tables -/

/-- The pattern as the table gives it, bound to the start of what is left of the text. -/
def boundPattern (pattern : String) : List Char :=
  "^(?:".toList ++ pattern.toList ++ [')']

def ofTable : List (String × TokenType) → Except Fault Lexer
  | [] => .ok []
  | (pattern, type) :: rest =>
    match Pattern.read? (boundPattern pattern) with
    | some read => (ofTable rest).map ({ pattern := read, type } :: ·)
    | none => .error (.grammar (.unreadablePattern pattern) Span.zero)

/-- The rules of the language. Keywords come before names, numbers with a fraction or an
exponent before whole ones, and a name with a parenthesis before a name alone. -/
def standardTable : List (String × TokenType) :=
  [("\\s+", .whitespace),
   ("&&", .and),
   ("\\|\\|", .or),
   ("==|!=|>=|<=|>|<", .relation),
   ("!", .not),
   ("\\(", .leftParenthesis),
   ("\\)", .rightParenthesis),
   (",", .comma),
   ("[+-]?(?:\\d*\\.\\d+(?:[eE][+-]?\\d+)?|\\d+[eE][+-]?\\d+)", .float),
   ("[+-]?\\d+", .integer),
   ("true\\b", .true),
   ("false\\b", .false),
   ("null\\b", .null),
   ("\"(?:[^\"\\\\]|\\\\.)*\"|'(?:[^'\\\\]|\\\\.)*'", .string),
   ("[A-Za-z_]\\w*\\s*\\(", .functionOpen),
   ("[A-Za-z_]\\w*(?:\\.[A-Za-z_]\\w*)*", .identifier)]

def standard : Lexer :=
  match ofTable standardTable with
  | .ok lexer => lexer
  | .error _ => []

/-! ## Reading what a token says -/

def escapedChar (char : Char) : Char :=
  match char with
  | 'n' => '\n'
  | 't' => '\t'
  | 'r' => '\r'
  | _ => char

/-- Resolves escapes; a backslash at the very end stands for itself. -/
def unescape : List Char → List Char
  | [] => []
  | [char] => [char]
  | char :: next :: rest =>
    if char = '\\' then escapedChar next :: unescape rest
    else char :: unescape (next :: rest)

/-- Takes off one byte at each end, the quotes, and resolves the escapes between. -/
def unquote (text : List Char) : List Char :=
  unescape ((Text.slice? text 1 (byteLength text - 1)).getD [])

def trimParentheses (text : List Char) : List Char :=
  Text.trimEnd (text.reverse.dropWhile (· == '(')).reverse

def tokenKind (type : TokenType) (text : List Char) (position : Nat) : Except Fault TokenKind :=
  let written := String.ofList text
  match type with
  | .whitespace => .ok .whitespace
  | .true => .ok (.boolean true)
  | .false => .ok (.boolean false)
  | .and => .ok .and
  | .or => .ok .or
  | .not => .ok .not
  | .leftParenthesis => .ok .leftParenthesis
  | .rightParenthesis => .ok .rightParenthesis
  | .comma => .ok .comma
  | .null => .ok .null
  | .endOfInput => .ok .endOfInput
  | .relation =>
    match Relation.ofText? written with
    | some relation => .ok (.relation relation)
    | none => .error (.relation written)
  | .integer =>
    match Number.readInt64? text with
    | some value => .ok (.integer value)
    | none => .error (.lexical written position)
  | .float =>
    match Number.readFloat? text with
    | some value => .ok (.float value)
    | none => .error (.lexical written position)
  | .string => .ok (.string (String.ofList (unquote text)))
  | .identifier => .ok (.identifier written)
  | .functionOpen => .ok (.functionOpen (String.ofList (trimParentheses text)))

/-! ## Cutting -/

def next? (lexer : Lexer) (text : List Char) : Option (Nat × TokenType) :=
  lexer.findSome? fun rule =>
    match rule.automaton.find? text with
    | some found => if found.start < found.stop then some (found.stop, rule.type) else none
    | none => none

def isKept (keepWhitespace : Bool) (type : TokenType) : Bool :=
  keepWhitespace || type != .whitespace

/-- Tokens from a byte position on. Every token takes at least one character, so there are no
more of them than characters. -/
def tokensFrom (lexer : Lexer) (keepWhitespace : Bool) :
    Nat → Nat → List Char → Except Fault (List Token)
  | _, position, [] => .ok [⟨.endOfInput, Span.point position⟩]
  | 0, position, _ :: _ => .ok [⟨.endOfInput, Span.point position⟩]
  | fuel + 1, position, char :: rest =>
    let text := char :: rest
    match lexer.next? text with
    | none => .error (.lexical (String.ofList text) position)
    | some (count, type) => do
      let taken := text.take count
      let stop := position + byteLength taken
      if isKept keepWhitespace type then
        let span := Span.ofNat position stop
        let kind ← tokenKind type taken span.start.toNat
        let tokens ← tokensFrom lexer keepWhitespace fuel stop (text.drop count)
        pure (⟨kind, span⟩ :: tokens)
      else tokensFrom lexer keepWhitespace fuel stop (text.drop count)

def tokenize (lexer : Lexer) (text : String) (keepWhitespace : Bool) : Except Fault (List Token) :=
  let chars := text.toList
  lexer.tokensFrom keepWhitespace chars.length 0 chars

end Lexer

end Proviso
