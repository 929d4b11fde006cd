import Proviso.Fault.Report
import Proviso.Proofs.Number.Decimal
import Proviso.Proofs.Text.Lines

/-!
Where the marks of a report stand. A report ends with two rows: the line in which a span starts,
quoted behind a gutter with its number, and the marks. The gutter is one column wider than the
blanks that the marks keep for it, so that every mark stands one column to the left of what it
marks.
-/

namespace Proviso

open Text (byteLength lineAt lastLine)

/-! ## Spans -/

theorem Text.takeBytes?_isPrefix {text taken : List Char} {count : Nat}
    (takes : takeBytes? text count = some taken) : taken <+: text := by
  induction text generalizing count taken with
  | nil =>
    cases count with
    | zero => cases takes; exact List.prefix_refl []
    | succ count => cases takes
  | cons char rest induction =>
    cases count with
    | zero => cases takes; exact List.nil_prefix
    | succ count =>
      rw [takeBytes?] at takes
      split at takes
      case isTrue =>
        rcases Option.map_eq_some_iff.mp takes with ⟨others, taken, rfl⟩
        exact List.cons_prefix_cons.mpr ⟨rfl, induction taken⟩
      case isFalse => cases takes

theorem Span.slice_isPrefix {span : Span} {before after : List Char}
    (start : span.start.toNat = byteLength before) : span.slice (before ++ after) <+: after := by
  rw [slice, Text.slice?, start, Text.dropBytes?_append]
  split
  case isTrue =>
    rw [Option.bind_some]
    cases takes : Text.takeBytes? after (span.stop.toNat - byteLength before) with
    | some under => exact Text.takeBytes?_isPrefix takes
    | none => exact List.nil_prefix
  case isFalse => exact List.nil_prefix

namespace Report

/-! ## Rows -/

def gutter (line : Nat) : List Char :=
  ' ' :: Number.decimal line ++ " | ".toList

def quotedRow (before after : List Char) : List Char :=
  gutter (before.count '\n' + 1) ++ lineAt before after

def markRow (blank marks : Nat) : List Char :=
  blanks blank ++ List.replicate marks '^'

/-- The characters that are marked, of those under a span: the ones of the first line, as far as
they are quoted. -/
def highlighted (before after under : List Char) : List Char :=
  (lineAt [] under).take ((lineAt before after).length - (lastLine before).length)

/-- That a text ends with the line at a place and with a row of marks under it, one for each
character that is highlighted and at least one. The first mark stands a number of columns to the
left of the place, and the mark of a character as far to the left of the character. -/
def Marks (shift : Nat) (before after under text : List Char) : Prop :=
  ∃ opening blank,
    text = opening ++ '\n' :: quotedRow before after ++
      '\n' :: markRow blank (max 1 (highlighted before after under).length) ++ ['\n'] ∧
    '\n' ∉ quotedRow before after ∧
    blank + shift = (gutter (before.count '\n' + 1)).length + (lastLine before).length ∧
    ∀ index char, (highlighted before after under)[index]? = some char →
      under[index]? = some char ∧ (quotedRow before after)[blank + shift + index]? = some char

theorem blanks_add (count more : Nat) : blanks (count + more) = blanks count ++ blanks more :=
  List.replicate_append_replicate.symm

theorem notMem_quotedRow (before after : List Char) : '\n' ∉ quotedRow before after := by
  intro member
  rcases List.mem_append.mp member with inGutter | inLine
  · rcases List.mem_append.mp inGutter with inNumber | inBar
    · rcases List.mem_cons.mp inNumber with isBlank | isDigit
      · cases isBlank
      · cases Number.isDigit_of_mem_decimal isDigit
    · revert inBar
      decide
  · exact Text.notMem_lineAt before after inLine

/-! ## Highlighted characters -/

theorem highlighted_isPrefix (before after under : List Char) :
    highlighted before after under <+: under.takeWhile (· != '\n') :=
  (List.take_prefix _ _).trans (Text.lineAt_isPrefix [] under)

theorem getElem?_of_isPrefix {part whole : List Char} (isPrefix : part <+: whole) {index : Nat}
    {char : Char} (found : part[index]? = some char) : whole[index]? = some char := by
  rcases isPrefix with ⟨rest, rfl⟩
  rw [List.getElem?_append_left (List.getElem?_eq_some_iff.mp found).1]
  exact found

theorem takeWhile_isPrefix {part whole : List Char} (isPrefix : part <+: whole)
    (holds : Char → Bool) : part.takeWhile holds <+: whole.takeWhile holds := by
  rcases isPrefix with ⟨rest, rfl⟩
  rw [List.takeWhile_append]
  split
  case isTrue => exact (List.takeWhile_prefix holds).trans (List.prefix_append part _)
  case isFalse => exact List.prefix_refl _

theorem lineAt_of_highlighted {before after under : List Char} (follows : under <+: after)
    {index : Nat} {char : Char}
    (isHighlighted : (highlighted before after under)[index]? = some char) :
    (lineAt before after)[(lastLine before).length + index]? = some char := by
  have within : (lastLine before).length + index < (lineAt before after).length := by
    have bounded := (List.getElem?_eq_some_iff.mp isHighlighted).1
    rw [highlighted, List.length_take] at bounded
    omega
  have inRest : (after.takeWhile (· != '\n'))[index]? = some char :=
    getElem?_of_isPrefix (takeWhile_isPrefix follows _)
      (getElem?_of_isPrefix (highlighted_isPrefix before after under) isHighlighted)
  have isQuoted := getElem?_of_isPrefix (Text.lineAt_isPrefix before after)
    (List.getElem?_eq_getElem within)
  rw [List.getElem?_append_right (Nat.le_add_right ..), Nat.add_sub_cancel_left, inRest] at isQuoted
  rw [List.getElem?_eq_getElem within, isQuoted]

/-! ## The report -/

section

variable {span : Span} {before after : List Char} (start : span.start.toNat = byteLength before)

include start

theorem ofPosition_start : Location.ofPosition (before ++ after) span.start.toNat =
    ⟨before.count '\n' + 1, (lastLine before).length + 1⟩ := by
  have within : byteLength before ≤ byteLength (before ++ after) := by
    rw [Text.byteLength_append]
    exact Nat.le_add_right ..
  rw [Location.ofPosition, start, Nat.min_eq_left within, Text.takeBytes?_append]
  rfl

omit start in
theorem spannedChars_eq (source : List Char) (span : Span) :
    spannedChars source span = (lineAt [] (span.slice source)).length := by
  rw [spannedChars, Span.slice]
  cases Text.slice? source span.start.toNat span.stop.toNat with
  | none => rfl
  | some under => exact congrArg List.length (Text.head_lines under)

theorem exists_located (report : Report) :
    ∃ opening, report.located (before ++ after) span = opening ++ '\n' :: quotedRow before after ++
      '\n' :: markRow ((Number.decimal (before.count '\n' + 1)).length + 3 +
        (lastLine before).length)
        (max 1 (highlighted before after (span.slice (before ++ after))).length) ++ ['\n'] := by
  have quoted : ((Text.lines (before ++ after))[before.count '\n' + 1 - 1]?).getD [] =
      lineAt before after := Text.getElem_lines before after
  have marks : markCount (before ++ after) (lineAt before after) span
      ((lastLine before).length + 1) =
        max 1 (highlighted before after (span.slice (before ++ after))).length := by
    rw [markCount, spannedChars_eq, highlighted, List.length_take, Nat.min_comm,
      Nat.add_sub_cancel]
  have newlines : "\n\n ".toList = ['\n', '\n', ' '] := by decide
  unfold located
  rw [ofPosition_start start]
  dsimp only
  rw [quoted, marks, Nat.add_sub_cancel, newlines]
  refine ⟨"Error at line ".toList ++ Number.decimal (before.count '\n' + 1) ++ ", column ".toList ++
    Number.decimal ((lastLine before).length + 1) ++ ":\n  ".toList ++ report.message.toList ++
    ['\n'], ?_⟩
  rw [markRow, blanks_add _ (lastLine before).length, quotedRow, gutter]
  simp only [List.append_assoc, List.cons_append, List.nil_append]

end

/-- Every mark of a report stands one column to the left of what it marks. -/
theorem marks_misplaced {report : Report} {span : Span} (spanned : report.span = some span)
    {source : String} {before after : List Char} (isSource : source.toList = before ++ after)
    (start : span.start.toNat = byteLength before) :
    Marks 1 before after (span.slice source.toList) (report.text source).toList := by
  rcases exists_located start report with ⟨opening, isText⟩
  rw [isSource, text, spanned, String.toList_ofList, isSource]
  -- The marks keep one column less than this for the gutter.
  have width : (gutter (before.count '\n' + 1)).length =
      (Number.decimal (before.count '\n' + 1)).length + 4 := by
    simp [gutter]
  refine ⟨opening, _, isText, notMem_quotedRow before after, by omega, ?_⟩
  intro index char isHighlighted
  constructor
  · have follows := highlighted_isPrefix before after (span.slice (before ++ after))
    exact getElem?_of_isPrefix (follows.trans (List.takeWhile_prefix _)) isHighlighted
  · have isQuoted := lineAt_of_highlighted (Span.slice_isPrefix start) isHighlighted
    rw [quotedRow, List.getElem?_append_right (by omega), ← isQuoted]
    congr 1
    omega

/-- The mark of a character with which no token begins. -/
theorem marks_misplaced_hash :
    (ofFault (.lexical "# 3" 8)).span = some (Span.ofNat 8 9) ∧
      "Age > 5 # 3".toList = "Age > 5 ".toList ++ "# 3".toList ∧
      (Span.ofNat 8 9).start.toNat = byteLength "Age > 5 ".toList ∧
      Marks 1 "Age > 5 ".toList "# 3".toList ((Span.ofNat 8 9).slice "Age > 5 # 3".toList)
        ((ofFault (.lexical "# 3" 8)).text "Age > 5 # 3").toList := by
  have spanned : (ofFault (.lexical "# 3" 8)).span = some (Span.ofNat 8 9) := by decide
  have isSource : "Age > 5 # 3".toList = "Age > 5 ".toList ++ "# 3".toList := by decide
  have start : (Span.ofNat 8 9).start.toNat = byteLength "Age > 5 ".toList := by decide
  exact ⟨spanned, isSource, start, marks_misplaced spanned isSource start⟩

theorem not_marks_hash :
    ¬ Marks 0 "Age > 5 ".toList "# 3".toList ((Span.ofNat 8 9).slice "Age > 5 # 3".toList)
      ((ofFault (.lexical "# 3" 8)).text "Age > 5 # 3").toList := by
  rintro ⟨opening, blank, isText, _, isPlace, _⟩
  have place : (gutter ("Age > 5 ".toList.count '\n' + 1)).length +
      (lastLine "Age > 5 ".toList).length = 13 := by
    decide
  rw [place, Nat.add_zero] at isPlace
  subst isPlace
  have single : max 1 (highlighted "Age > 5 ".toList "# 3".toList
      ((Span.ofNat 8 9).slice "Age > 5 # 3".toList)).length = 1 := by
    decide
  rw [single, List.append_assoc] at isText
  have ends : '\n' :: markRow 13 1 ++ ['\n'] <:+
      ((ofFault (.lexical "# 3" 8)).text "Age > 5 # 3").toList :=
    ⟨_, isText.symm⟩
  revert ends
  decide +kernel

end Report

end Proviso
