import Proviso.Number.Notation
import Proviso.Relation
import Proviso.Span

/-!
Tokens: the words of a condition with the stretch of text that each covers.
-/

namespace Proviso

inductive TokenType where
  | whitespace
  | true
  | false
  | and
  | or
  | not
  | leftParenthesis
  | rightParenthesis
  | integer
  | float
  | string
  | null
  | identifier
  | relation
  | comma
  | functionOpen
  | endOfInput
  deriving DecidableEq

/-- A token's kind with what it says. The name that opens a call includes its parenthesis. -/
inductive TokenKind where
  | boolean (value : Bool)
  | integer (value : Int64)
  | float (value : Float)
  | string (value : String)
  | null
  | identifier (path : String)
  | functionOpen (name : String)
  | and
  | or
  | not
  | relation (relation : Relation)
  | leftParenthesis
  | rightParenthesis
  | comma
  | whitespace
  | endOfInput

namespace TokenKind

def type : TokenKind → TokenType
  | .boolean true => .true
  | .boolean false => .false
  | .integer _ => .integer
  | .float _ => .float
  | .string _ => .string
  | .null => .null
  | .identifier _ => .identifier
  | .functionOpen _ => .functionOpen
  | .and => .and
  | .or => .or
  | .not => .not
  | .relation _ => .relation
  | .leftParenthesis => .leftParenthesis
  | .rightParenthesis => .rightParenthesis
  | .comma => .comma
  | .whitespace => .whitespace
  | .endOfInput => .endOfInput

def text : TokenKind → String
  | .boolean value => if value then "true" else "false"
  | .integer value => Number.text value.toInt
  | .float value => Number.floatText value
  | .string value => s!"'{value}'"
  | .null => "null"
  | .identifier path => path
  | .functionOpen name => name ++ "("
  | .and => "&&"
  | .or => "||"
  | .not => "!"
  | .relation operator => operator.text
  | .leftParenthesis => "("
  | .rightParenthesis => ")"
  | .comma => ","
  | .whitespace => "whitespace"
  | .endOfInput => "end of input"

def isEnd : TokenKind → Bool
  | .endOfInput => Bool.true
  | _ => Bool.false

end TokenKind

structure Token where
  kind : TokenKind
  span : Span

end Proviso
