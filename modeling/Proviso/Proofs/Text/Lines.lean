import Mathlib.Data.List.TakeWhile
import Proviso.Text.Lines
import Proviso.Text.Segments

/-!
The line at a place of a text. It begins behind the last newline in front of the place and goes on
to the next one; its number is the number of newlines in front of the place, also among the pieces
of a text that is cut at every newline.
-/

namespace Proviso.Text

def lineAt (before after : List Char) : List Char :=
  let line := lastLine before ++ after.takeWhile (· != '\n')
  if '\n' ∈ after then dropReturn line else line

/-! ## What precedes a place -/

theorem notMem_takeWhile (text : List Char) : '\n' ∉ text.takeWhile (· != '\n') := by
  intro member
  simpa using List.mem_takeWhile_imp member

theorem notMem_lastLine (text : List Char) : '\n' ∉ lastLine text := by
  rw [lastLine, List.mem_reverse]
  exact notMem_takeWhile text.reverse

theorem lastLine_of_notMem {text : List Char} (single : '\n' ∉ text) : lastLine text = text := by
  have all : text.reverse.takeWhile (· != '\n') = text.reverse := by
    refine List.takeWhile_eq_self_iff.mpr fun char member => bne_iff_ne.mpr ?_
    rintro rfl
    exact single (List.mem_reverse.mp member)
  rw [lastLine, all, List.reverse_reverse]

theorem lastLine_append_newline (before after : List Char) :
    lastLine (before ++ '\n' :: after) = lastLine after := by
  simp only [lastLine, List.reverse_append, List.reverse_cons, List.append_assoc,
    List.singleton_append]
  rw [List.takeWhile_append]
  split
  case isTrue whole =>
    have all := (List.takeWhile_prefix (· != '\n')).eq_of_length whole
    simp [all]
  case isFalse => rfl

theorem lastLine_append_singleton {char : Char} (other : char ≠ '\n') (before : List Char) :
    lastLine (before ++ [char]) = lastLine before ++ [char] := by
  simp [lastLine, other]

/-! ## The line at a place -/

theorem dropReturn_isPrefix (line : List Char) : dropReturn line <+: line := by
  unfold dropReturn
  split
  · exact List.dropLast_prefix line
  · exact List.prefix_refl line

theorem lineAt_isPrefix (before after : List Char) :
    lineAt before after <+: lastLine before ++ after.takeWhile (· != '\n') := by
  unfold lineAt
  dsimp only
  split
  · exact dropReturn_isPrefix _
  · exact List.prefix_refl _

theorem notMem_lineAt (before after : List Char) : '\n' ∉ lineAt before after := by
  intro member
  rcases List.mem_append.mp ((lineAt_isPrefix before after).subset member) with member | member
  · exact notMem_lastLine before member
  · exact notMem_takeWhile after member

theorem lineAt_append_singleton {char : Char} (other : char ≠ '\n') (before after : List Char) :
    lineAt (before ++ [char]) after = lineAt before (char :: after) := by
  simp [lineAt, lastLine_append_singleton other, other, other.symm]

theorem getElem_linesFrom_zero {current : List Char} (single : '\n' ∉ current)
    (after : List Char) :
    ((linesFrom current after)[0]?).getD [] = lineAt current.reverse after := by
  induction after generalizing current with
  | nil =>
    rw [lineAt, lastLine_of_notMem (by simpa using single)]
    cases current <;> simp [linesFrom]
  | cons char rest induction =>
    rw [linesFrom]
    split
    case isTrue isNewline =>
      subst isNewline
      rw [lineAt, lastLine_of_notMem (by simpa using single)]
      simp
    case isFalse other =>
      rw [induction (by simp [single, Ne.symm other]), List.reverse_cons,
        lineAt_append_singleton other]

theorem getElem_linesFrom {current : List Char} (single : '\n' ∉ current)
    (before after : List Char) :
    ((linesFrom current (before ++ after))[before.count '\n']?).getD [] =
      lineAt (current.reverse ++ before) after := by
  -- What is read of the line so far is carried along until the next newline starts a new one.
  induction before generalizing current with
  | nil => simpa using getElem_linesFrom_zero single after
  | cons char rest induction =>
    rw [List.cons_append, linesFrom]
    split
    case isTrue isNewline =>
      subst isNewline
      have onward := induction List.not_mem_nil
      simp only [lineAt, lastLine_append_newline, List.count_cons_self] at onward ⊢
      simpa using onward
    case isFalse other =>
      rw [List.count_cons_of_ne other, induction (by simp [single, Ne.symm other])]
      simp

theorem getElem_lines (before after : List Char) :
    ((lines (before ++ after))[before.count '\n']?).getD [] = lineAt before after :=
  getElem_linesFrom List.not_mem_nil before after

theorem head_lines (text : List Char) : (lines text).head?.getD [] = lineAt [] text := by
  rw [List.head?_eq_getElem?]
  exact getElem_lines [] text

/-! ## Texts cut at newlines -/

theorem lastLine_cons_of_mem {text : List Char} (ended : '\n' ∈ text) (char : Char) :
    lastLine (char :: text) = lastLine text := by
  obtain ⟨before, after, rfl⟩ := List.append_of_mem ended
  rw [← List.cons_append, lastLine_append_newline, lastLine_append_newline]

theorem exists_segmentsAt_eq_cons (text : List Char) :
    ∃ behind, segmentsAt '\n' text = text.takeWhile (· != '\n') :: behind ∧
      (behind = [] ↔ '\n' ∉ text) := by
  induction text with
  | nil => exact ⟨[], rfl, by simp⟩
  | cons char rest induction =>
    obtain ⟨behind, cut, isLast⟩ := induction
    by_cases newline : char = '\n'
    · subst newline
      refine ⟨segmentsAt '\n' rest, rfl, ?_⟩
      simp [segmentsAt_ne_nil]
    · refine ⟨behind, ?_, ?_⟩
      · rw [segmentsAt, if_neg newline, cut]
        simp [newline]
      · rw [isLast, List.mem_cons, not_or]
        simp [Ne.symm newline]

/-- A place in a text lies in the line whose number is that of the newlines in front of it, behind
those lines and what precedes it in its own line. -/
theorem exists_segmentsAt_append (before after : List Char) :
    ∃ front behind, segmentsAt '\n' (before ++ after) =
        front ++ (lastLine before ++ after.takeWhile (· != '\n')) :: behind ∧
      front.length = before.count '\n' ∧
      front.flatMap (· ++ ['\n']) ++ lastLine before = before ∧
      (behind = [] ↔ '\n' ∉ after) := by
  induction before with
  | nil =>
    obtain ⟨behind, cut, isLast⟩ := exists_segmentsAt_eq_cons after
    exact ⟨[], behind, cut, rfl, rfl, isLast⟩
  | cons char rest induction =>
    obtain ⟨front, behind, cut, counted, precedes, isLast⟩ := induction
    by_cases newline : char = '\n'
    · subst newline
      have line : lastLine ('\n' :: rest) = lastLine rest := lastLine_append_newline [] rest
      refine ⟨[] :: front, behind, ?_, ?_, ?_, isLast⟩
      · rw [List.cons_append, segmentsAt, if_pos rfl, cut, line, List.cons_append]
      · rw [List.length_cons, counted, List.count_cons_self]
      · rw [line, List.flatMap_cons, List.append_assoc, precedes]
        rfl
    · have sameCount : (char :: rest).count '\n' = rest.count '\n' :=
        List.count_cons_of_ne newline
      rw [List.cons_append, segmentsAt, if_neg newline, cut, sameCount]
      cases front with
      | nil =>
        -- The place is in the first line, which gets longer.
        have single : '\n' ∉ rest := List.count_eq_zero.mp counted.symm
        have line : lastLine (char :: rest) = char :: rest :=
          lastLine_of_notMem (List.not_mem_cons_of_ne_of_not_mem (Ne.symm newline) single)
        rw [lastLine_of_notMem single]
        exact ⟨[], behind, by rw [line]; rfl, counted, line, isLast⟩
      | cons first front =>
        have ended : '\n' ∈ rest := by
          rw [← List.count_pos_iff, ← counted]
          exact Nat.zero_lt_succ _
        rw [lastLine_cons_of_mem ended]
        refine ⟨(char :: first) :: front, behind, rfl, counted, ?_, isLast⟩
        rw [List.flatMap_cons] at precedes ⊢
        exact congrArg (char :: ·) precedes

end Proviso.Text
