/-!
Dotted names. A text is cut at every full stop, so that it has one segment more than it has
full stops, and the empty text has one empty segment.
-/

namespace Proviso.Text

def segmentsAt (separator : Char) : List Char → List (List Char)
  | [] => [[]]
  | char :: rest =>
    if char = separator then [] :: segmentsAt separator rest
    else
      match segmentsAt separator rest with
      | [] => [[char]]
      | first :: others => (char :: first) :: others

theorem segmentsAt_ne_nil (separator : Char) (text : List Char) :
    segmentsAt separator text ≠ [] := by
  cases text with
  | nil => simp [segmentsAt]
  | cons char rest =>
    rw [segmentsAt]
    split
    · simp
    · split <;> simp

def segments (name : String) : List String :=
  (segmentsAt '.' name.toList).map String.ofList

theorem segments_ne_nil (name : String) : segments name ≠ [] := by
  simp [segments, segmentsAt_ne_nil]

/-- The part of a dotted name before its first full stop, and the part behind it. -/
def cutSegment? (name : String) : Option (String × String) :=
  go [] name.toList
where
  go (before : List Char) : List Char → Option (String × String)
    | [] => none
    | char :: rest =>
      if char = '.' then some (String.ofList before.reverse, String.ofList rest)
      else go (char :: before) rest

def joined (separator : String) : List String → String
  | [] => ""
  | [text] => text
  | text :: next :: rest => text ++ separator ++ joined separator (next :: rest)

/-! ## Segments put together again -/

theorem intercalate_segmentsAt (separator : Char) (text : List Char) :
    [separator].intercalate (segmentsAt separator text) = text := by
  induction text with
  | nil => rfl
  | cons char rest induction =>
    rw [segmentsAt]
    rcases split : segmentsAt separator rest with _ | ⟨first, others⟩
    · exact absurd split (segmentsAt_ne_nil separator rest)
    · rw [split] at induction
      by_cases same : char = separator
      · rw [if_pos same, List.intercalate_cons_cons, induction, same]
        rfl
      · rw [if_neg same]
        cases others with
        | nil =>
          simp [← induction]
        | cons next others =>
          simp [← induction]

theorem notMem_of_mem_segmentsAt {separator : Char} {text segment : List Char}
    (member : segment ∈ segmentsAt separator text) : separator ∉ segment := by
  induction text generalizing segment with
  | nil => simp_all [segmentsAt]
  | cons char rest induction =>
    rw [segmentsAt] at member
    rcases split : segmentsAt separator rest with _ | ⟨first, others⟩
    · exact absurd split (segmentsAt_ne_nil separator rest)
    · rw [split] at member induction
      by_cases same : char = separator
      · rw [if_pos same] at member
        rcases List.mem_cons.mp member with rfl | member
        · exact List.not_mem_nil
        · exact induction member
      · rw [if_neg same] at member
        rcases List.mem_cons.mp member with rfl | member
        · have absent : separator ∉ first := induction (List.mem_cons_self ..)
          exact List.not_mem_cons_of_ne_of_not_mem (Ne.symm same) absent
        · exact induction (List.mem_cons_of_mem _ member)

theorem mem_of_mem_segmentsAt {separator char : Char} {text segment : List Char}
    (member : segment ∈ segmentsAt separator text) (inside : char ∈ segment) : char ∈ text := by
  induction text generalizing segment with
  | nil => simp_all [segmentsAt]
  | cons first rest induction =>
    rw [segmentsAt] at member
    rcases split : segmentsAt separator rest with _ | ⟨next, others⟩
    · exact absurd split (segmentsAt_ne_nil separator rest)
    · rw [split] at member induction
      by_cases same : first = separator
      · rw [if_pos same] at member
        rcases List.mem_cons.mp member with rfl | member
        · cases inside
        · exact List.mem_cons_of_mem _ (induction member inside)
      · rw [if_neg same] at member
        rcases List.mem_cons.mp member with rfl | member
        · rcases List.mem_cons.mp inside with rfl | inside
          · exact List.mem_cons_self ..
          · exact List.mem_cons_of_mem _ (induction (List.mem_cons_self ..) inside)
        · exact List.mem_cons_of_mem _ (induction (List.mem_cons_of_mem _ member) inside)

theorem mem_intercalate {separator : List Char} {segments : List (List Char)} {char : Char}
    (member : char ∈ separator.intercalate segments) :
    (∃ segment ∈ segments, char ∈ segment) ∨ char ∈ separator := by
  induction segments with
  | nil => simp at member
  | cons first rest induction =>
    cases rest with
    | nil =>
      rw [List.intercalate_singleton] at member
      exact .inl ⟨first, List.mem_cons_self .., member⟩
    | cons next rest =>
      rw [List.intercalate_cons_cons, List.mem_append, List.mem_append] at member
      rcases member with (member | member) | member
      · exact .inl ⟨first, List.mem_cons_self .., member⟩
      · exact .inr member
      · rcases induction member with ⟨segment, isMember, inside⟩ | inside
        · exact .inl ⟨segment, List.mem_cons_of_mem _ isMember, inside⟩
        · exact .inr inside

theorem segmentsAt_append_cons {separator : Char} {segment : List Char}
    (plain : separator ∉ segment) (rest : List Char) :
    segmentsAt separator (segment ++ separator :: rest) = segment :: segmentsAt separator rest := by
  induction segment with
  | nil => simp [segmentsAt]
  | cons char segment induction =>
    rw [List.mem_cons, not_or] at plain
    rw [List.cons_append, segmentsAt, if_neg (Ne.symm plain.1), induction plain.2]

theorem segmentsAt_of_notMem {separator : Char} {segment : List Char}
    (plain : separator ∉ segment) : segmentsAt separator segment = [segment] := by
  induction segment with
  | nil => rfl
  | cons char segment induction =>
    rw [List.mem_cons, not_or] at plain
    rw [segmentsAt, if_neg (Ne.symm plain.1), induction plain.2]

theorem segmentsAt_intercalate {separator : Char} {segments : List (List Char)}
    (nonempty : segments ≠ []) (plain : ∀ segment ∈ segments, separator ∉ segment) :
    segmentsAt separator ([separator].intercalate segments) = segments := by
  induction segments with
  | nil => exact absurd rfl nonempty
  | cons first rest induction =>
    rw [List.forall_mem_cons] at plain
    cases rest with
    | nil => rw [List.intercalate_singleton, segmentsAt_of_notMem plain.1]
    | cons next rest =>
      have later := induction (List.cons_ne_nil _ _) plain.2
      rw [List.intercalate_cons_cons, List.append_assoc]
      exact (segmentsAt_append_cons plain.1 _).trans (congrArg (first :: ·) later)
end Proviso.Text
