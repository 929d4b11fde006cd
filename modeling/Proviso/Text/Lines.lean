/-!
Lines of a text. A line ends at a newline character, and a carriage return directly in front
of it belongs to the line end; nothing that follows the last newline is no line.
-/

namespace Proviso.Text

/-- Drops a carriage return at the end of a line that was ended by a newline. -/
def dropReturn (line : List Char) : List Char :=
  if line.getLast? = some '\r' then line.dropLast else line

def linesFrom (current : List Char) : List Char → List (List Char)
  | [] => if current.isEmpty then [] else [current.reverse]
  | char :: rest =>
    if char = '\n' then dropReturn current.reverse :: linesFrom [] rest
    else linesFrom (char :: current) rest

def lines (text : List Char) : List (List Char) :=
  linesFrom [] text

def lastLine (text : List Char) : List Char :=
  (text.reverse.takeWhile (· != '\n')).reverse

example : lines "a\r\nb\n\nc\r".toList =
    ["a".toList, "b".toList, [], "c\r".toList] := by decide

end Proviso.Text
