import Proviso.Fault.Report
import Proviso.Proofs.Fault.Report

/-!
What a report says of a place. Its line and column are those of the start of the span in the source
cut at every newline, and lead back to it; the line is quoted without the carriage return in front
of its newline. There is a mark at least, and no mark beyond the quoted line but a single one.
Nothing that is cut or counted for a report can fail, whatever the span.
-/

namespace Proviso

namespace Text

/-! ## Lines and columns -/

/-- The position of a column of a line, both counted from zero, in a text cut at every newline. The
column behind the last character of a line is its end. -/
def positionAt? (text : List Char) (line column : Nat) : Option Nat :=
  let rows := segmentsAt '\n' text
  match rows[line]? with
  | some row =>
    if column ≤ row.length then
      some (byteLength ((rows.take line).flatMap (· ++ ['\n']) ++ row.take column))
    else none
  | none => none

def lineWithoutReturn? (text : List Char) (line : Nat) : Option (List Char) :=
  let rows := segmentsAt '\n' text
  rows[line]?.map fun row => if line + 1 < rows.length then dropReturn row else row

example : positionAt? "é\r\nab\n".toList 1 1 = some 5 := by decide

example : lineWithoutReturn? "é\r\nab\n".toList 0 = some "é".toList := by decide

theorem positionAt?_append (before after : List Char) :
    positionAt? (before ++ after) (before.count '\n') (lastLine before).length =
      some (byteLength before) := by
  obtain ⟨front, behind, cut, counted, precedes, -⟩ := exists_segmentsAt_append before after
  rw [positionAt?, cut, ← counted]
  simp [precedes]

theorem lineWithoutReturn?_append (before after : List Char) :
    lineWithoutReturn? (before ++ after) (before.count '\n') = some (lineAt before after) := by
  obtain ⟨front, behind, cut, counted, -, isLast⟩ := exists_segmentsAt_append before after
  have ended : front.length + 1 < (front ++ (lastLine before ++
      after.takeWhile (· != '\n')) :: behind).length ↔ '\n' ∈ after := by
    rw [List.length_append, List.length_cons, ← not_iff_not, ← isLast, ← List.length_eq_zero_iff]
    omega
  rw [lineWithoutReturn?, cut, ← counted, List.getElem?_append_right (Nat.le_refl _), Nat.sub_self,
    List.getElem?_cons_zero, Option.map_some, lineAt]
  simp only [ended]

/-! ## The start of the last line -/

def lastNewline? : List Char → Option Nat
  | [] => none
  | char :: rest =>
    match lastNewline? rest with
    | some position => some (char.utf8Size + position)
    | none => if char = '\n' then some 0 else none

def lastLineStart (text : List Char) : Nat :=
  match lastNewline? text with
  | some position => position + 1
  | none => 0

theorem lastNewline?_eq_none_iff {text : List Char} : lastNewline? text = none ↔ '\n' ∉ text := by
  induction text with
  | nil => simp [lastNewline?]
  | cons char rest induction =>
    rw [lastNewline?, List.mem_cons, not_or, ← induction]
    cases lastNewline? rest with
    | some position => simp
    | none => by_cases newline : char = '\n' <;> simp [newline, eq_comm]

theorem exists_append_lastLine (text : List Char) :
    ∃ opening, text = opening ++ lastLine text ∧ byteLength opening = lastLineStart text := by
  induction text with
  | nil => exact ⟨[], rfl, rfl⟩
  | cons char rest induction =>
    obtain ⟨opening, isRest, starts⟩ := induction
    rw [lastLineStart] at starts ⊢
    rw [lastNewline?]
    cases last : lastNewline? rest with
    | some position =>
      have ended : '\n' ∈ rest := by
        by_contra absent
        rw [lastNewline?_eq_none_iff.mpr absent] at last
        cases last
      rw [last] at starts
      rw [lastLine_cons_of_mem ended]
      refine ⟨char :: opening, congrArg (char :: ·) isRest, ?_⟩
      rw [byteLength_cons, starts]
      exact (Nat.add_assoc ..).symm
    | none =>
      have single : '\n' ∉ rest := lastNewline?_eq_none_iff.mp last
      by_cases newline : char = '\n'
      · subst newline
        have line : lastLine ('\n' :: rest) = rest :=
          (lastLine_append_newline [] rest).trans (lastLine_of_notMem single)
        exact ⟨['\n'], by rw [line]; rfl, rfl⟩
      · have line : lastLine (char :: rest) = char :: rest :=
          lastLine_of_notMem (List.not_mem_cons_of_ne_of_not_mem (Ne.symm newline) single)
        rw [if_neg newline, line]
        exact ⟨[], rfl, rfl⟩

theorem dropBytes?_lastLineStart (text : List Char) :
    dropBytes? text (lastLineStart text) = some (lastLine text) := by
  obtain ⟨opening, isText, starts⟩ := exists_append_lastLine text
  have cut := dropBytes?_append opening (lastLine text)
  rwa [← isText, starts] at cut

end Text

/-! ## Steps that may fail -/

def fromZero? : Nat → Option Nat
  | 0 => none
  | count + 1 => some count

/-- The location of a position, by steps that fail where a text is not cut between characters. -/
def Location.ofPosition? (source : List Char) (position : Nat) : Option Location := do
  let before := (Text.takeBytes? source (min position (Text.byteLength source))).getD source
  let line ← Text.dropBytes? before (Text.lastLineStart before)
  some ⟨before.count '\n' + 1, line.length + 1⟩

theorem Location.ofPosition?_eq (source : List Char) (position : Nat) :
    ofPosition? source position = some (ofPosition source position) := by
  rw [ofPosition?, ofPosition, Text.dropBytes?_lastLineStart]
  rfl

namespace Report

def layout (message : String) (line column : Nat) (quoted : List Char) (blank marks : Nat) :
    List Char :=
  "Error at line ".toList ++ Number.decimal line ++ ", column ".toList ++ Number.decimal column ++
    ":\n  ".toList ++ message.toList ++ "\n\n ".toList ++
    Number.decimal line ++ " | ".toList ++ quoted ++ '\n' ::
    blanks ((Number.decimal line).length + 3) ++ blanks blank ++ List.replicate marks '^' ++ ['\n']

theorem located_eq_layout (report : Report) (source : List Char) (span : Span)
    {line column : Nat} (location : Location.ofPosition source span.start.toNat = ⟨line, column⟩) :
    report.located source span =
      let quoted := ((Text.lines source)[line - 1]?).getD []
      layout report.message line column quoted (column - 1)
        (markCount source quoted span column) := by
  unfold located layout
  rw [location]

/-- The text of a report, by steps that may fail: the cuts of the source, and what is counted from
zero although it is given from one. -/
def text? (report : Report) (source : String) : Option String :=
  match report.span with
  | some span => do
    let chars := source.toList
    let ⟨line, column⟩ ← Location.ofPosition? chars span.start.toNat
    let above ← fromZero? line
    let before ← fromZero? column
    let quoted := ((Text.lines chars)[above]?).getD []
    let marks := max 1 (min (spannedChars chars span) (quoted.length - before))
    some (String.ofList (layout report.message line column quoted before marks))
  | none => some s!"Error: {report.message}\n"

/-- No step fails. -/
theorem text?_eq (report : Report) (source : String) :
    report.text? source = some (report.text source) := by
  cases spanned : report.span with
  | none =>
    rw [text?, text, spanned]
  | some span =>
    rw [text?, text, spanned]
    dsimp only
    rw [Location.ofPosition?_eq]
    rfl

/-- What a report says of the place of a span: the numbers of its line and its column, the line as
it is quoted, and the number of marks. -/
structure Locates (source : List Char) (span : Span) (line column : Nat) (quoted : List Char)
    (marks : Nat) : Prop where
  lineFromOne : 1 ≤ line
  columnFromOne : 1 ≤ column
  place : Text.positionAt? source (line - 1) (column - 1) = some span.start.toNat
  isQuoted : Text.lineWithoutReturn? source (line - 1) = some quoted
  someMark : 1 ≤ marks
  oneMark (isEmpty : span.isEmpty = true) : marks = 1
  withinLine : marks = 1 ∨ column - 1 + marks ≤ quoted.length

theorem spannedChars_of_isEmpty {span : Span} (isEmpty : span.isEmpty = true)
    (source : List Char) : spannedChars source span = 0 := by
  have order : span.stop.toNat ≤ span.start.toNat := of_decide_eq_true isEmpty
  rw [spannedChars, Text.slice?]
  by_cases same : span.start.toNat ≤ span.stop.toNat
  · have none : span.stop.toNat - span.start.toNat = 0 := by omega
    rw [if_pos same, none]
    cases Text.dropBytes? source span.start.toNat with
    | none => rfl
    | some rest => rw [Option.bind_some, Text.takeBytes?_zero]; rfl
  · rw [if_neg same]

/-- No step of a report fails, and where a span starts between two characters the report tells its
place. -/
theorem text_locates (report : Report) (source : String) :
    report.text? source = some (report.text source) ∧
      ∀ span, report.span = some span → Text.Boundary source.toList span.start.toNat →
        ∃ line column quoted marks, Locates source.toList span line column quoted marks ∧
          report.text source =
            .ofList (layout report.message line column quoted (column - 1) marks) := by
  refine ⟨text?_eq report source, ?_⟩
  intro span spanned boundary
  obtain ⟨before, after, isSource, start⟩ := boundary
  have location : Location.ofPosition (before ++ after) span.start.toNat =
      ⟨before.count '\n' + 1, (Text.lastLine before).length + 1⟩ := ofPosition_start start.symm
  have quoted := Text.getElem_lines before after
  refine ⟨before.count '\n' + 1, (Text.lastLine before).length + 1, Text.lineAt before after,
    markCount source.toList (Text.lineAt before after) span ((Text.lastLine before).length + 1),
    ?_, ?_⟩
  · rw [isSource]
    constructor
    case lineFromOne => omega
    case columnFromOne => omega
    case place => rw [← start]; exact Text.positionAt?_append before after
    case isQuoted => exact Text.lineWithoutReturn?_append before after
    case someMark => exact Nat.le_max_left ..
    case oneMark =>
      intro isEmpty
      rw [markCount, spannedChars_of_isEmpty isEmpty]
      simp
    case withinLine =>
      rw [markCount]
      omega
  · rw [text, spanned]
    dsimp only
    rw [isSource, located_eq_layout report _ span location, Nat.add_sub_cancel, quoted]

/-- The second of two lines, behind a letter of two bytes and a carriage return. -/
theorem text_locates_second_line :
    Text.Boundary "é\r\nab".toList (Span.ofNat 5 6).start.toNat ∧
      Report.text? ⟨"bad", some (.ofNat 5 6)⟩ "é\r\nab" =
        some (Report.text ⟨"bad", some (.ofNat 5 6)⟩ "é\r\nab") ∧
      ∃ line column quoted marks,
        Locates "é\r\nab".toList (.ofNat 5 6) line column quoted marks ∧
          Report.text ⟨"bad", some (.ofNat 5 6)⟩ "é\r\nab" =
            .ofList (layout "bad" line column quoted (column - 1) marks) := by
  have boundary : Text.Boundary "é\r\nab".toList (Span.ofNat 5 6).start.toNat :=
    ⟨"é\r\na".toList, ['b'], by decide, by decide⟩
  obtain ⟨checked, locates⟩ := text_locates ⟨"bad", some (.ofNat 5 6)⟩ "é\r\nab"
  exact ⟨boundary, checked, locates (.ofNat 5 6) rfl boundary⟩

end Report

end Proviso
