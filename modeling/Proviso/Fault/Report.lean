import Proviso.Fault.Message
import Proviso.Text.Lines

/-!
Reports of faults for people: the message, the line of the condition in which the fault
lies, and a row of marks beneath it.
-/

namespace Proviso

/-- A line and a column, both counted from one, the column in characters. -/
structure Location where
  line : Nat
  column : Nat
  deriving DecidableEq

/-- Where a byte position lies. A position inside a character is taken for the end. -/
def Location.ofPosition (source : List Char) (position : Nat) : Location :=
  let before := (Text.takeBytes? source (min position (Text.byteLength source))).getD source
  ⟨before.count '\n' + 1, (Text.lastLine before).length + 1⟩

structure Report where
  message : String
  span : Option Span

namespace Report

def ofFault (fault : Fault) : Report :=
  ⟨fault.message, fault.span?⟩

def spannedChars (source : List Char) (span : Span) : Nat :=
  match Text.slice? source span.start.toNat span.stop.toNat with
  | some text => ((Text.lines text).head?.getD []).length
  | none => 0

/-- At least one mark, and no mark beyond the end of the line. -/
def markCount (source line : List Char) (span : Span) (column : Nat) : Nat :=
  max 1 (min (spannedChars source span) (line.length - (column - 1)))

def blanks (count : Nat) : List Char :=
  List.replicate count ' '

def located (report : Report) (source : List Char) (span : Span) : List Char :=
  let location := Location.ofPosition source span.start.toNat
  let line := ((Text.lines source)[location.line - 1]?).getD []
  let number := Number.decimal location.line
  let marks := markCount source line span location.column
  "Error at line ".toList ++ number ++ ", column ".toList ++ Number.decimal location.column ++
    ":\n  ".toList ++ report.message.toList ++ "\n\n ".toList ++
    number ++ " | ".toList ++ line ++ '\n' ::
    blanks (number.length + 3) ++ blanks (location.column - 1) ++
    List.replicate marks '^' ++ ['\n']

def text (report : Report) (source : String) : String :=
  match report.span with
  | some span => String.ofList (report.located source.toList span)
  | none => s!"Error: {report.message}\n"

end Report

end Proviso
