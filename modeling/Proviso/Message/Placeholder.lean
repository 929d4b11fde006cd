import Proviso.Text.Offset
import Proviso.Text.Segments
import Proviso.Writing.Word

/-!
Placeholders in the text of a message: a dotted path between runs of braces, with `:n` behind it
where the name of the field is meant and not its value. Cutting a text into placeholders and
single characters loses nothing (`flatMap_written_pieces`).
-/

namespace Proviso.Message

structure Placeholder where
  opening : Nat
  path : List Char
  isLabel : Bool
  closing : Nat
  deriving DecidableEq

inductive Piece where
  | char (value : Char)
  | placeholder (value : Placeholder)
  deriving DecidableEq

namespace Placeholder

def labelMark : List Char :=
  [':', 'n']

def body (placeholder : Placeholder) : List Char :=
  placeholder.path ++ if placeholder.isLabel then labelMark else []

def written (placeholder : Placeholder) : List Char :=
  List.replicate placeholder.opening '\x7b' ++ (placeholder.body ++
    List.replicate placeholder.closing '\x7d')

/-! ## Reading -/

def isNameStart (char : Char) : Bool :=
  ('a' ≤ char && char ≤ 'z') || ('A' ≤ char && char ≤ 'Z') || char == '_'

def isPathChar (char : Char) : Bool :=
  Text.isWord char || char == '.'

def isName : List Char → Bool
  | char :: _ => isNameStart char
  | [] => false

/-- Whether characters of paths form one: no name in it is empty or starts with a digit. -/
def isPath (text : List Char) : Bool :=
  (Text.segmentsAt '.' text).all isName

def runLength (char : Char) : List Char → Nat
  | [] => 0
  | first :: rest => if first = char then runLength char rest + 1 else 0

def dropLabel (text : List Char) : List Char :=
  if labelMark.isPrefixOf text then text.drop labelMark.length else text

def readBehind? (opening : Nat) (text : List Char) : Option Placeholder :=
  let path := text.takeWhile isPathChar
  let behind := text.dropWhile isPathChar
  let closing := runLength '\x7d' (dropLabel behind)
  if 0 < closing ∧ isPath path then
    some ⟨opening, path, labelMark.isPrefixOf behind, closing⟩
  else none

def read? (text : List Char) : Option Placeholder :=
  let opening := runLength '\x7b' text
  if 0 < opening then readBehind? opening (text.drop opening) else none

end Placeholder

namespace Piece

def written : Piece → List Char
  | .char value => [value]
  | .placeholder value => value.written

end Piece

/-- Cuts a text into pieces, given how many characters still belong to the piece before. -/
def piecesFrom : Nat → List Char → List Piece
  | _, [] => []
  | skipped + 1, _ :: rest => piecesFrom skipped rest
  | 0, char :: rest =>
    match Placeholder.read? (char :: rest) with
    | some found => .placeholder found :: piecesFrom (found.written.length - 1) rest
    | none => .char char :: piecesFrom 0 rest

def pieces (text : List Char) : List Piece :=
  piecesFrom 0 text

/-! ## Nothing is lost -/

namespace Placeholder

theorem replicate_runLength_append (char : Char) (text : List Char) :
    List.replicate (runLength char text) char ++ text.drop (runLength char text) = text := by
  induction text with
  | nil => rfl
  | cons first rest induction =>
    rw [runLength]
    split
    · next same =>
      rw [List.replicate_succ, List.cons_append, List.drop_succ_cons, induction, same]
    · rfl

theorem label_append_dropLabel (text : List Char) :
    (if labelMark.isPrefixOf text then labelMark else []) ++ dropLabel text = text := by
  unfold dropLabel
  split
  · next marked =>
    rcases List.isPrefixOf_iff_prefix.1 marked with ⟨rest, equal⟩
    rw [← equal, List.drop_left]
  · rfl

theorem written_of_readBehind? {opening : Nat} {text : List Char} {found : Placeholder}
    (read : readBehind? opening text = some found) :
    found.opening = opening ∧ ∃ rest, text = found.body ++
      (List.replicate found.closing '\x7d' ++ rest) := by
  unfold readBehind? at read
  dsimp only at read
  split at read
  · injection read with equal
    subst equal
    let behind := text.dropWhile isPathChar
    refine ⟨rfl, (dropLabel behind).drop (runLength '\x7d' (dropLabel behind)), ?_⟩
    rw [replicate_runLength_append, body, List.append_assoc, label_append_dropLabel]
    exact List.takeWhile_append_dropWhile.symm
  · contradiction

theorem written_of_read? {text : List Char} {found : Placeholder}
    (read : read? text = some found) :
    0 < found.written.length ∧ ∃ rest, text = found.written ++ rest := by
  unfold read? at read
  dsimp only at read
  split at read
  · next present =>
    rcases written_of_readBehind? read with ⟨opening, rest, equal⟩
    constructor
    · simp only [written, List.length_append, List.length_replicate, opening]
      omega
    · refine ⟨rest, ?_⟩
      rw [written, opening, List.append_assoc, List.append_assoc, ← equal,
        replicate_runLength_append]
  · contradiction

end Placeholder

theorem flatMap_written_piecesFrom (skipped : Nat) (text : List Char) :
    (piecesFrom skipped text).flatMap Piece.written = text.drop skipped := by
  induction text generalizing skipped with
  | nil => simp [piecesFrom]
  | cons char rest induction =>
    cases skipped with
    | succ skipped => rw [piecesFrom, induction, List.drop_succ_cons]
    | zero =>
      rw [piecesFrom]
      split
      · next found read =>
        rcases Placeholder.written_of_read? read with ⟨taken, remaining, equal⟩
        have behind : rest.drop (found.written.length - 1) = remaining := by
          have shifted := congrArg (List.drop found.written.length) equal
          rw [List.drop_left] at shifted
          rw [← shifted, ← Nat.sub_add_cancel taken, List.drop_succ_cons,
            Nat.add_sub_cancel]
        rw [List.flatMap_cons, induction, behind, List.drop_zero, equal]
        rfl
      · rw [List.flatMap_cons, induction]
        rfl

theorem flatMap_written_pieces (text : List Char) :
    (pieces text).flatMap Piece.written = text :=
  flatMap_written_piecesFrom 0 text

end Proviso.Message
