import Proviso.Message.Placeholder

/-!
Which placeholders a text has. What may stand between the braces, and where a placeholder ends, is
said here without regard to how it is found; read from left to right, a text is cut into
placeholders and other characters in exactly one way.
-/

namespace Proviso.Message

open Text (isWord segmentsAt)

namespace Placeholder

/-! ## Paths -/

/-- A Latin letter or an underscore, followed by word characters. -/
def IsNameText (name : List Char) : Prop :=
  ∃ first rest, name = first :: rest ∧ isNameStart first = true ∧
    ∀ char ∈ rest, isWord char = true

/-- Names with a full stop between each two. -/
def IsPathText (path : List Char) : Prop :=
  ∃ names, names ≠ [] ∧ (∀ name ∈ names, IsNameText name) ∧ path = ['.'].intercalate names

theorem isWord_of_isNameStart {char : Char} (starts : isNameStart char = true) :
    isWord char = true := by
  obtain ⟨beyond, asciiFirst⟩ : ∃ beyond, Text.wordRanges =
      (0x30, 0x39) :: (0x41, 0x5A) :: (0x5F, 0x5F) :: (0x61, 0x7A) :: beyond := ⟨_, rfl⟩
  simp only [isNameStart, Bool.or_eq_true, Bool.and_eq_true, decide_eq_true_eq, beq_iff_eq,
    Char.le_def, UInt32.le_iff_toNat_le] at starts
  have codes : (0x61 ≤ char.toNat ∧ char.toNat ≤ 0x7A ∨ 0x41 ≤ char.toNat ∧ char.toNat ≤ 0x5A) ∨
      char.toNat = 0x5F := starts.imp_right (congrArg Char.toNat)
  rw [isWord, asciiFirst, Text.CodeRanges.contains]
  simp [Text.CodeRanges.holds]
  omega

theorem IsNameText.isName {name : List Char} (isNameText : IsNameText name) :
    isName name = true := by
  rcases isNameText with ⟨first, rest, rfl, starts, _⟩
  exact starts

theorem IsNameText.isWord_of_mem {name : List Char} (isNameText : IsNameText name) {char : Char}
    (member : char ∈ name) : isWord char = true := by
  rcases isNameText with ⟨first, rest, rfl, starts, words⟩
  rcases List.mem_cons.mp member with rfl | member
  · exact isWord_of_isNameStart starts
  · exact words char member

theorem isPathText_iff {path : List Char} :
    IsPathText path ↔ (∀ char ∈ path, isPathChar char = true) ∧ isPath path = true := by
  constructor
  · rintro ⟨names, nonempty, areNames, rfl⟩
    have dotless : ∀ name ∈ names, '.' ∉ name := by
      intro name isMember dotted
      have notWord : isWord '.' = false := rfl
      exact Bool.false_ne_true (notWord.symm.trans ((areNames name isMember).isWord_of_mem dotted))
    constructor
    · intro char member
      rcases Text.mem_intercalate member with ⟨name, isMember, member⟩ | member
      · rw [isPathChar, (areNames name isMember).isWord_of_mem member, Bool.true_or]
      · rw [List.mem_singleton.mp member]
        rfl
    · rw [isPath, Text.segmentsAt_intercalate nonempty dotless, List.all_eq_true]
      exact fun name isMember => (areNames name isMember).isName
  · rintro ⟨pathChars, path⟩
    rw [isPath, List.all_eq_true] at path
    refine ⟨segmentsAt '.' _, Text.segmentsAt_ne_nil _ _, fun name isMember => ?_,
      (Text.intercalate_segmentsAt _ _).symm⟩
    have dotless := Text.notMem_of_mem_segmentsAt isMember
    have named := path name isMember
    cases name with
    | nil => cases named
    | cons first rest =>
      refine ⟨first, rest, rfl, named, fun char member => ?_⟩
      have isMemberOfName := List.mem_cons_of_mem first member
      have ofPath := pathChars char (Text.mem_of_mem_segmentsAt isMember isMemberOfName)
      have notDot : char ≠ '.' := fun equal => dotless (equal ▸ isMemberOfName)
      simpa [isPathChar, notDot] using ofPath

/-! ## Placeholders -/

structure Proper (placeholder : Placeholder) : Prop where
  opens : 0 < placeholder.opening
  closes : 0 < placeholder.closing
  path : IsPathText placeholder.path

/-- A text begins with a placeholder if it is written there with all the braces that follow. -/
structure Begins (placeholder : Placeholder) (text rest : List Char) : Prop where
  proper : placeholder.Proper
  written : text = placeholder.written ++ rest
  ends : rest.head? ≠ some '\x7d'

theorem runLength_replicate_append {char : Char} {rest : List Char}
    (ends : rest.head? ≠ some char) (count : Nat) :
    runLength char (List.replicate count char ++ rest) = count := by
  induction count with
  | zero =>
    cases rest with
    | nil => rfl
    | cons first rest =>
      have different : first ≠ char := fun equal => ends (congrArg some equal)
      exact if_neg different
  | succ count induction =>
    rw [List.replicate_succ, List.cons_append, runLength, if_pos rfl, induction]

theorem head?_drop_runLength (char : Char) (text : List Char) :
    (text.drop (runLength char text)).head? ≠ some char := by
  induction text with
  | nil => simp
  | cons first rest induction =>
    rw [runLength]
    split
    case isTrue => exact induction
    case isFalse different => simpa using different

theorem takeWhile_isPathChar_append {path behind : List Char}
    (pathChars : ∀ char ∈ path, isPathChar char = true)
    (stops : ∀ char ∈ behind.head?, isPathChar char = false) :
    (path ++ behind).takeWhile isPathChar = path ∧
      (path ++ behind).dropWhile isPathChar = behind := by
  rw [List.takeWhile_append_of_pos pathChars, List.dropWhile_append_of_pos pathChars]
  cases behind with
  | nil => simp
  | cons first rest =>
    have stopped := stops first rfl
    simp [stopped]

theorem readBehind?_body_append {opening : Nat} {found : Placeholder} {rest : List Char}
    (path : IsPathText found.path) (closes : 0 < found.closing)
    (ends : rest.head? ≠ some '\x7d') :
    readBehind? opening (found.body ++ (List.replicate found.closing '\x7d' ++ rest)) =
      some { found with opening } := by
  rcases found with ⟨_, name, isLabel, closing⟩
  rcases closing with _ | closing
  · exact absurd closes (Nat.lt_irrefl 0)
  have isPathText := isPathText_iff.mp path
  have count := runLength_replicate_append ends (closing + 1)
  let label : List Char := if isLabel then labelMark else []
  let behind := label ++ (List.replicate (closing + 1) '\x7d' ++ rest)
  have stops : ∀ char ∈ behind.head?, isPathChar char = false := by
    cases isLabel <;> simp [behind, label, labelMark, List.replicate_succ] <;> rfl
  have parts := takeWhile_isPathChar_append isPathText.1 stops
  have marked : labelMark.isPrefixOf behind = isLabel := by
    cases isLabel <;> simp [behind, label, labelMark, List.replicate_succ, List.isPrefixOf]
  have unmarked : dropLabel behind = List.replicate (closing + 1) '\x7d' ++ rest := by
    rw [dropLabel, marked]
    cases isLabel <;> simp [behind, label, labelMark]
  rw [body, List.append_assoc, readBehind?]
  dsimp only
  rw [parts.1, parts.2, unmarked, count, marked, if_pos ⟨Nat.succ_pos _, isPathText.2⟩]

theorem begins_of_readBehind? {opening : Nat} {text : List Char} {found : Placeholder}
    (opens : 0 < opening) (read : readBehind? opening text = some found) :
    found.opening = opening ∧
      ∃ rest, found.Begins (List.replicate opening '\x7b' ++ text) rest := by
  unfold readBehind? at read
  dsimp only at read
  split at read
  case isFalse => cases read
  case isTrue proper =>
    injection read with equal
    subst equal
    let behind := text.dropWhile isPathChar
    let count := runLength '\x7d' (dropLabel behind)
    have pathChars : ∀ char ∈ text.takeWhile isPathChar, isPathChar char = true :=
      fun char member => List.all_eq_true.mp List.all_takeWhile char member
    refine ⟨rfl, (dropLabel behind).drop count, ⟨opens, proper.1, ?_⟩, ?_, ?_⟩
    · exact isPathText_iff.mpr ⟨pathChars, proper.2⟩
    · rw [written, List.append_assoc, List.append_assoc, replicate_runLength_append, body,
        List.append_assoc, label_append_dropLabel, List.takeWhile_append_dropWhile]
    · exact head?_drop_runLength '\x7d' (dropLabel behind)

/-- A placeholder is read from a text exactly if the text begins with it. -/
theorem read?_eq_some_iff {text : List Char} {found : Placeholder} :
    read? text = some found ↔ ∃ rest, found.Begins text rest := by
  constructor
  · intro read
    unfold read? at read
    dsimp only at read
    split at read
    case isFalse => cases read
    case isTrue opens =>
      rcases (begins_of_readBehind? opens read).2 with ⟨rest, begins⟩
      rw [replicate_runLength_append] at begins
      exact ⟨rest, begins⟩
  · rintro ⟨rest, proper, rfl, ends⟩
    let behind := found.body ++ (List.replicate found.closing '\x7d' ++ rest)
    have assembled : found.written ++ rest = List.replicate found.opening '\x7b' ++ behind := by
      simp only [written, behind, List.append_assoc]
    have startsPath : behind.head? ≠ some '\x7b' := by
      rcases proper.path with ⟨names, nonempty, areNames, equal⟩
      rcases names with _ | ⟨name, names⟩
      · exact absurd rfl nonempty
      rcases areNames name (List.mem_cons_self ..) with ⟨first, others, rfl, starts, _⟩
      have differs : first ≠ '\x7b' := by
        rintro rfl
        exact absurd starts (by decide)
      cases names <;> simp [behind, body, equal, differs]
    have count := runLength_replicate_append startsPath found.opening
    have skipped : (List.replicate found.opening '\x7b' ++ behind).drop found.opening = behind :=
      List.drop_left' (List.length_replicate ..)
    rw [assembled, read?, count, if_pos proper.opens, skipped,
      readBehind?_body_append proper.path proper.closes ends]

end Placeholder

/-! ## Cutting -/

/-- A text cut from left to right: a placeholder wherever the text begins with one, and single
characters elsewhere. -/
inductive Cut : List Char → List Piece → Prop where
  | nil : Cut [] []
  | placeholder {found : Placeholder} {text rest : List Char} {pieces : List Piece}
    (begins : found.Begins text rest) (later : Cut rest pieces) :
    Cut text (.placeholder found :: pieces)
  | char {char : Char} {rest : List Char} {pieces : List Piece}
    (plain : ∀ found behind, ¬ Placeholder.Begins found (char :: rest) behind)
    (later : Cut rest pieces) : Cut (char :: rest) (.char char :: pieces)

theorem piecesFrom_eq_pieces_drop (skipped : Nat) (text : List Char) :
    piecesFrom skipped text = pieces (text.drop skipped) := by
  induction text generalizing skipped with
  | nil => simp [pieces, piecesFrom]
  | cons char rest induction =>
    cases skipped with
    | zero => rfl
    | succ skipped => rw [piecesFrom, induction, List.drop_succ_cons]

theorem pieces_of_begins {found : Placeholder} {text rest : List Char}
    (begins : found.Begins text rest) : pieces text = .placeholder found :: pieces rest := by
  have read := Placeholder.read?_eq_some_iff.mpr ⟨rest, begins⟩
  have taken := (Placeholder.written_of_read? read).1
  cases text with
  | nil => cases read
  | cons char others =>
    have behind : others.drop (found.written.length - 1) = rest := by
      have shifted := congrArg (List.drop found.written.length) begins.written
      rw [List.drop_left, ← Nat.sub_add_cancel taken, List.drop_succ_cons] at shifted
      exact shifted
    rw [pieces, piecesFrom, read]
    exact congrArg (.placeholder found :: ·) ((piecesFrom_eq_pieces_drop _ _).trans
      (congrArg pieces behind))

theorem pieces_cons_of_plain {char : Char} {rest : List Char}
    (plain : ∀ found behind, ¬ Placeholder.Begins found (char :: rest) behind) :
    pieces (char :: rest) = .char char :: pieces rest := by
  have unread : Placeholder.read? (char :: rest) = none := by
    cases read : Placeholder.read? (char :: rest) with
    | none => rfl
    | some found =>
      rcases Placeholder.read?_eq_some_iff.mp read with ⟨behind, begins⟩
      exact absurd begins (plain found behind)
  rw [pieces, piecesFrom, unread]
  rfl

theorem Cut.eq_pieces {text : List Char} {cut : List Piece} (isCut : Cut text cut) :
    cut = pieces text := by
  induction isCut with
  | nil => rfl
  | placeholder begins _ induction => rw [pieces_of_begins begins, induction]
  | char plain _ induction => rw [pieces_cons_of_plain plain, induction]

theorem cut_pieces (text : List Char) : Cut text (pieces text) := by
  induction length : text.length using Nat.strongRecOn generalizing text with
  | ind count induction =>
    cases text with
    | nil => exact .nil
    | cons char rest =>
      by_cases begun : ∃ found behind, Placeholder.Begins found (char :: rest) behind
      · rcases begun with ⟨found, behind, begins⟩
        have read := Placeholder.read?_eq_some_iff.mpr ⟨behind, begins⟩
        have taken := (Placeholder.written_of_read? read).1
        have shorter : behind.length < count := by
          rw [← length, begins.written, List.length_append]
          omega
        rw [pieces_of_begins begins]
        exact .placeholder begins (induction _ shorter behind rfl)
      · have plain : ∀ found behind, ¬ Placeholder.Begins found (char :: rest) behind :=
          fun found behind begins => begun ⟨found, behind, begins⟩
        rw [pieces_cons_of_plain plain]
        exact .char plain (induction _ (length ▸ Nat.lt_succ_self _) rest rfl)

theorem cut_iff {text : List Char} {cut : List Piece} : Cut text cut ↔ cut = pieces text :=
  ⟨Cut.eq_pieces, fun equal => equal ▸ cut_pieces text⟩

end Proviso.Message
