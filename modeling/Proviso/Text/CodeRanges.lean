/-!
Sets of characters written as ascending, disjoint, closed ranges of code points.
Every character property of the library is a table of this form, so that membership
is decided by one walk that stops at the first range beyond the character.
-/

namespace Proviso.Text

abbrev CodeRanges := List (Nat × Nat)

namespace CodeRanges

def holds : CodeRanges → Nat → Bool
  | [], _ => false
  | (first, last) :: rest, code =>
    if code < first then false
    else if code ≤ last then true
    else holds rest code

def contains (ranges : CodeRanges) (char : Char) : Bool :=
  ranges.holds char.toNat

/-! The table is in order: each range is non-empty and starts beyond the one before it. -/

def Ascending : CodeRanges → Prop
  | [] => True
  | [(first, last)] => first ≤ last
  | (first, last) :: (next, stop) :: rest =>
    first ≤ last ∧ last < next ∧ Ascending ((next, stop) :: rest)

instance decidableAscending : (ranges : CodeRanges) → Decidable ranges.Ascending
  | [] => isTrue trivial
  | [(first, last)] => inferInstanceAs (Decidable (first ≤ last))
  | (first, last) :: (next, stop) :: rest =>
    have := decidableAscending ((next, stop) :: rest)
    inferInstanceAs (Decidable (first ≤ last ∧ last < next ∧ Ascending ((next, stop) :: rest)))

/-- On an ordered table the early stop loses nothing: the walk finds a code exactly when
some range covers it. -/
theorem holds_iff {ranges : CodeRanges} (ascending : ranges.Ascending) {code : Nat} :
    ranges.holds code = true ↔ ∃ range ∈ ranges, range.1 ≤ code ∧ code ≤ range.2 := by
  induction ranges with
  | nil => simp [holds]
  | cons range rest induction =>
    rcases range with ⟨first, last⟩
    cases rest with
    | nil =>
      simp only [holds]
      split
      · simp; omega
      · split <;> simp <;> omega
    | cons next rest =>
      rcases next with ⟨next, stop⟩
      rcases ascending with ⟨_, below, later⟩
      have beyond : ∀ range ∈ (next, stop) :: rest, next ≤ range.1 := by
        have : ∀ (ranges : CodeRanges) (start stop : Nat),
            Ascending ((start, stop) :: ranges) → ∀ range ∈ (start, stop) :: ranges, start ≤ range.1 := by
          intro ranges
          induction ranges with
          | nil => intro start stop _ range member; simp at member; simp [member]
          | cons head tail ih =>
            intro start stop ordered range member
            rcases head with ⟨head, last⟩
            rcases ordered with ⟨h₁, h₂, h₃⟩
            rcases List.mem_cons.1 member with rfl | member
            · exact Nat.le_refl _
            · have := ih head last h₃ range member
              omega
        exact this rest next stop later
      rw [holds]
      split
      · constructor
        · simp
        · rintro ⟨range, member, h₁, h₂⟩
          rcases List.mem_cons.1 member with rfl | member
          · simp at h₁; omega
          · have := beyond range member
            omega
      · split
        · simp; omega
        · rw [induction later]
          constructor
          · rintro ⟨range, member, h⟩
            exact ⟨range, List.mem_cons_of_mem _ member, h⟩
          · rintro ⟨range, member, h₁, h₂⟩
            rcases List.mem_cons.1 member with rfl | member
            · simp at h₂; omega
            · exact ⟨range, member, h₁, h₂⟩

/-! ## Sets from other sets -/

/-- Joins a range with those behind it that it overlaps or touches. The ranges are given by their
starts in order. -/
def joinFrom (first last : Nat) : List (Nat × Nat) → CodeRanges
  | [] => [(first, last)]
  | (next, stop) :: rest =>
    if next ≤ last + 1 then joinFrom first (max last stop) rest
    else (first, last) :: joinFrom next stop rest

def join : List (Nat × Nat) → CodeRanges
  | [] => []
  | (first, last) :: rest => joinFrom first last rest

def merge : Nat → CodeRanges → CodeRanges → List (Nat × Nat)
  | fuel + 1, range :: rest, other :: others =>
    if range.1 ≤ other.1 then range :: merge fuel rest (other :: others)
    else other :: merge fuel (range :: rest) others
  | _, ranges, others => ranges ++ others

def union (ranges others : CodeRanges) : CodeRanges :=
  join (merge (ranges.length + others.length) ranges others)

def gaps (start : Nat) : CodeRanges → CodeRanges
  | [] => if start ≤ 0x10FFFF then [(start, 0x10FFFF)] else []
  | (first, last) :: rest =>
    if start < first then (start, first - 1) :: gaps (last + 1) rest else gaps (last + 1) rest

def complement (ranges : CodeRanges) : CodeRanges :=
  gaps 0 ranges

def intersection (ranges others : CodeRanges) : CodeRanges :=
  (ranges.complement.union others.complement).complement

def difference (ranges others : CodeRanges) : CodeRanges :=
  (ranges.complement.union others).complement

def ofCodes (codes : List Nat) : CodeRanges :=
  join (codes.mergeSort.map fun code => (code, code))

end CodeRanges

end Proviso.Text
