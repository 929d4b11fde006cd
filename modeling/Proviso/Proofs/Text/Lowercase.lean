import Proviso.Text.Blank
import Proviso.Writing.Case

/-!
What lower case leaves alone. Blanks and the asterisk have no case, and no other character has a
lower-case form in which one of them occurs. So a text is blank, or a single asterisk, exactly when
its lower-case form is.
-/

namespace Proviso.Text

/-! ## Characters without case -/

def inertRanges : CodeRanges :=
  (0x2A, 0x2A) :: blankRanges

def IsInertCode (code : Nat) : Prop :=
  ∃ range ∈ inertRanges, range.1 ≤ code ∧ code ≤ range.2

/-- A character that stands for nothing but itself, as a blank or as the wildcard. -/
def IsInert (char : Char) : Prop :=
  char = '*' ∨ isBlank char = true

theorem isInert_iff {char : Char} : IsInert char ↔ IsInertCode char.toNat := by
  have blank : isBlank char = true ↔
      ∃ range ∈ blankRanges, range.1 ≤ char.toNat ∧ char.toNat ≤ range.2 :=
    CodeRanges.holds_iff (by decide)
  have asterisk : char = '*' ↔ 0x2A ≤ char.toNat ∧ char.toNat ≤ 0x2A := by
    rw [← Char.toNat_inj]
    exact ⟨fun same => by rw [same]; decide, fun bounds => Nat.le_antisymm bounds.2 bounds.1⟩
  simp only [IsInert, IsInertCode, blank, asterisk, inertRanges, List.mem_cons,
    exists_eq_or_imp]

theorem forall_not_inert {text : List Char}
    (plain : text.all (fun char => char != '*' && !isBlank char) = true) :
    ∀ char ∈ text, ¬ IsInert char := by
  intro char member
  have apart := List.all_eq_true.mp plain char member
  rw [Bool.and_eq_true, bne_iff_ne, Bool.not_eq_true'] at apart
  exact not_or.mpr ⟨apart.1, Bool.eq_false_iff.mp apart.2⟩

theorem inert_of_shift {shift : CaseShift} (row : shift ∈ lowercaseShifts) {code : Nat}
    (covered : shift.covers code = true) :
    ¬ IsInertCode code ∧ ¬ IsInertCode (shift.target code) := by
  have apart : lowercaseShifts.all (fun shift => inertRanges.all fun range =>
      decide (0 < range.1 ∧ (shift.last < range.1 ∨ range.2 < shift.first) ∧
        (shift.last + shift.distance < range.1 ∨ range.2 < shift.first + shift.distance))) =
      true := by
    decide +kernel
  have separate := List.all_eq_true.mp apart shift row
  simp only [CaseShift.covers, Bool.and_eq_true, decide_eq_true_eq] at covered
  constructor
  · rintro ⟨range, member, low, high⟩
    have bounds := of_decide_eq_true (List.all_eq_true.mp separate range member)
    omega
  · rintro ⟨range, member, low, high⟩
    have bounds := of_decide_eq_true (List.all_eq_true.mp separate range member)
    simp only [CaseShift.target] at low high
    omega

theorem shiftCode_inert (code : Nat) :
    (IsInertCode code → shiftCode lowercaseShifts code = code) ∧
      (IsInertCode (shiftCode lowercaseShifts code) → IsInertCode code) := by
  unfold shiftCode
  split
  case h_1 shift found =>
    have covered := inert_of_shift (List.mem_of_find?_eq_some found)
      (List.find?_eq_some_iff_append.mp found).1
    exact ⟨fun inert => absurd inert covered.1, fun inert => absurd inert covered.2⟩
  case h_2 => exact ⟨fun _ => rfl, id⟩

/-! ## Lower case -/

theorem not_inert_of_letter {code : Nat} (low : 0x41 ≤ code) (high : code ≤ 0x7A) :
    ¬ IsInertCode code := by
  simp only [IsInertCode, inertRanges, blankRanges, List.mem_cons, List.not_mem_nil,
    exists_eq_or_imp]
  rintro bounds
  simp at bounds
  omega

theorem bounds_of_isUpper {char : Char} (upper : char.isUpper = true) :
    0x41 ≤ char.toNat ∧ char.toNat ≤ 0x5A := by
  have bounds : 'A'.val ≤ char.val ∧ char.val ≤ 'Z'.val := of_decide_eq_true upper
  exact ⟨UInt32.le_iff_toNat_le.mp bounds.1, UInt32.le_iff_toNat_le.mp bounds.2⟩

theorem toNat_ofNat (code : Nat) :
    (Char.ofNat code).toNat = code ∨ (Char.ofNat code).toNat = 0 := by
  by_cases valid : code.isValidChar
  · exact .inl (congrArg Char.toNat (dif_pos valid))
  · exact .inr (congrArg Char.toNat (dif_neg valid))

theorem inertCode_of_inert_ofNat {code : Nat} (inert : IsInert (Char.ofNat code)) :
    IsInertCode code := by
  rw [isInert_iff] at inert
  rcases toNat_ofNat code with same | zero
  · rwa [same] at inert
  · rw [zero] at inert
    rcases inert with ⟨range, member, low, _⟩
    have positive : inertRanges.all (fun range => decide (0 < range.1)) = true := by decide
    have := of_decide_eq_true (List.all_eq_true.mp positive range member)
    omega

theorem lowercaseChar_of_inert {char : Char} (inert : IsInert char) :
    lowercaseChar char = [char] := by
  unfold lowercaseChar
  split
  case isTrue dotted =>
    rw [dotted] at inert
    exact absurd inert (by unfold IsInert; decide)
  case isFalse =>
    split
    case isTrue =>
      split
      case isTrue upper =>
        have bounds := bounds_of_isUpper upper
        exact absurd (isInert_iff.mp inert) (not_inert_of_letter bounds.1 (by omega))
      case isFalse => rfl
    case isFalse => rw [(shiftCode_inert char.toNat).1 (isInert_iff.mp inert), Char.ofNat_toNat]

/-- The lower case of other characters is not empty, and nothing in it is inert. -/
theorem lowercaseChar_of_not_inert {char : Char} (other : ¬ IsInert char) :
    lowercaseChar char ≠ [] ∧ ∀ lower ∈ lowercaseChar char, ¬ IsInert lower := by
  unfold lowercaseChar
  split
  case isTrue => exact ⟨List.cons_ne_nil _ _, forall_not_inert (by decide)⟩
  case isFalse =>
    split
    case isTrue =>
      refine ⟨List.cons_ne_nil _ _, fun lower member => ?_⟩
      rcases List.mem_singleton.mp member with rfl
      split
      case isTrue upper =>
        have bounds := bounds_of_isUpper upper
        exact fun inert =>
          not_inert_of_letter (by omega) (by omega) (inertCode_of_inert_ofNat inert)
      case isFalse => exact other
    case isFalse =>
      refine ⟨List.cons_ne_nil _ _, fun lower member inert => ?_⟩
      rcases List.mem_singleton.mp member with rfl
      exact other (isInert_iff.mpr
        ((shiftCode_inert char.toNat).2 (inertCode_of_inert_ofNat inert)))

/-! ## Texts -/

/-- The lower case of a text begins with that of its first character: it is the character itself
if that is inert, and has no inert characters otherwise. -/
theorem lowercaseAfter_cons (before : List Char) (char : Char) (rest : List Char) :
    ∃ lower, lowercaseAfter before (char :: rest) = lower ++ lowercaseAfter (char :: before) rest ∧
      (IsInert char → lower = [char]) ∧
      (¬ IsInert char → lower ≠ [] ∧ ∀ other ∈ lower, ¬ IsInert other) := by
  refine ⟨_, rfl, ?_⟩
  split
  case isTrue sigma =>
    subst sigma
    refine ⟨fun inert => absurd inert (by unfold IsInert; decide), fun _ => ?_⟩
    split <;> exact ⟨List.cons_ne_nil _ _, forall_not_inert (by decide)⟩
  case isFalse => exact ⟨lowercaseChar_of_inert, lowercaseChar_of_not_inert⟩

theorem blank_lowercaseAfter (before text : List Char) :
    blank (lowercaseAfter before text) = blank text := by
  induction text generalizing before with
  | nil => rfl
  | cons char rest induction =>
    rcases lowercaseAfter_cons before char rest with ⟨lower, split, inert, other⟩
    have head : lower.all isBlank = isBlank char := by
      by_cases isInert : IsInert char
      · rw [inert isInert, List.all_cons, List.all_nil, Bool.and_true]
      · rcases List.exists_cons_of_ne_nil (other isInert).1 with ⟨first, others, rfl⟩
        have visible := (other isInert).2 first (List.mem_cons_self ..)
        simp only [IsInert, not_or, Bool.not_eq_true] at isInert visible
        rw [List.all_cons, visible.2, isInert.2, Bool.false_and]
    have tail := induction (char :: before)
    rw [blank] at tail ⊢
    rw [split, List.all_append, head, tail]
    rfl

theorem blank_lowercase (text : List Char) : blank (lowercase text) = blank text :=
  blank_lowercaseAfter [] text

theorem lowercaseAfter_ne_nil (before : List Char) (char : Char) (rest : List Char) :
    lowercaseAfter before (char :: rest) ≠ [] := by
  rcases lowercaseAfter_cons before char rest with ⟨lower, split, inert, other⟩
  rw [split]
  by_cases isInert : IsInert char
  · rw [inert isInert]
    exact List.cons_ne_nil _ _
  · exact List.append_ne_nil_of_left_ne_nil (other isInert).1 _

theorem lowercase_eq_asterisk {text : List Char} : lowercase text = ['*'] ↔ text = ['*'] := by
  constructor
  · intro lowered
    cases text with
    | nil => cases lowered
    | cons char rest =>
      rcases lowercaseAfter_cons [] char rest with ⟨lower, split, inert, other⟩
      rw [lowercase, split] at lowered
      by_cases isInert : IsInert char
      · rw [inert isInert] at lowered
        rcases List.cons.inj lowered with ⟨rfl, last⟩
        cases rest with
        | nil => rfl
        | cons next others => exact absurd last (lowercaseAfter_ne_nil _ next others)
      · rcases List.exists_cons_of_ne_nil (other isInert).1 with ⟨first, others, rfl⟩
        have isAsterisk : first = '*' := (List.cons.inj lowered).1
        exact absurd (.inl isAsterisk) ((other isInert).2 first (List.mem_cons_self ..))
  · rintro rfl
    rfl

end Proviso.Text
