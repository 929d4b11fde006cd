/-!
Putting a text in the place of another one wherever that occurs.
-/

namespace Proviso.Text

/-- Replaces every occurrence of a part, which is not empty, from left to right, given how many
characters still belong to the occurrence before. -/
def replaceFrom (part substitute : List Char) : Nat → List Char → List Char
  | _, [] => []
  | skipped + 1, _ :: rest => replaceFrom part substitute skipped rest
  | 0, char :: rest =>
    if part.isPrefixOf (char :: rest) then
      substitute ++ replaceFrom part substitute (part.length - 1) rest
    else char :: replaceFrom part substitute 0 rest

def replace (part substitute text : List Char) : List Char :=
  replaceFrom part substitute 0 text

variable {part : List Char}

theorem replaceFrom_eq_replace_drop (part substitute : List Char) (skipped : Nat)
    (text : List Char) :
    replaceFrom part substitute skipped text = replace part substitute (text.drop skipped) := by
  induction text generalizing skipped with
  | nil => simp [replace, replaceFrom]
  | cons char rest induction =>
    cases skipped with
    | zero => rfl
    | succ skipped => rw [replaceFrom, induction, List.drop_succ_cons]

theorem replace_append_self (nonempty : part ≠ []) (substitute rest : List Char) :
    replace part substitute (part ++ rest) = substitute ++ replace part substitute rest := by
  cases part with
  | nil => exact absurd rfl nonempty
  | cons first others =>
    have occurs : (first :: others).isPrefixOf (first :: (others ++ rest)) = true :=
      List.isPrefixOf_iff_prefix.mpr ⟨rest, rfl⟩
    rw [replace, List.cons_append, replaceFrom, if_pos occurs, replaceFrom_eq_replace_drop,
      List.length_cons, Nat.add_sub_cancel, List.drop_left]

theorem replace_append_of_absent {before rest : List Char} (substitute : List Char)
    (absent : ∀ index < before.length, ¬ part <+: (before ++ rest).drop index) :
    replace part substitute (before ++ rest) = before ++ replace part substitute rest := by
  induction before with
  | nil => rfl
  | cons char before induction =>
    have notHere : ¬ part.isPrefixOf (char :: (before ++ rest)) = true := by
      rw [List.isPrefixOf_iff_prefix]
      exact absent 0 (Nat.zero_lt_succ _)
    have later := induction fun index inside => absent (index + 1) (Nat.succ_lt_succ inside)
    rw [replace, List.cons_append, replaceFrom, if_neg notHere]
    exact congrArg (char :: ·) later

/-- A text in which one occurrence begins, and no other one, has that occurrence replaced. -/
theorem replace_append_of_single {before after rest : List Char} (nonempty : part ≠ [])
    (substitute : List Char)
    (single : ∀ index < (before ++ part ++ after).length,
      part <+: (before ++ part ++ after ++ rest).drop index → index = before.length) :
    replace part substitute (before ++ part ++ after ++ rest) =
      before ++ substitute ++ after ++ replace part substitute rest := by
  have taken : 0 < part.length := List.length_pos_iff.mpr nonempty
  rw [List.length_append, List.length_append] at single
  have opened : ∀ index < before.length,
      ¬ part <+: (before ++ (part ++ (after ++ rest))).drop index := by
    intro index inside occurs
    have assembled : before ++ part ++ after ++ rest = before ++ (part ++ (after ++ rest)) := by
      simp only [List.append_assoc]
    have equal := single index (by omega) (assembled ▸ occurs)
    omega
  have closed : ∀ index < after.length, ¬ part <+: (after ++ rest).drop index := by
    intro index inside occurs
    let start := (before ++ part).length
    have skipped : (before ++ part ++ after ++ rest).drop (start + index) =
        (after ++ rest).drop index := by
      rw [← List.drop_drop, List.append_assoc (before ++ part), List.drop_left]
    have length : start = before.length + part.length := List.length_append
    have equal := single (start + index) (by omega) (skipped ▸ occurs)
    omega
  calc
    replace part substitute (before ++ part ++ after ++ rest)
      = replace part substitute (before ++ (part ++ (after ++ rest))) := by
        simp only [List.append_assoc]
    _ = before ++ (substitute ++ (after ++ replace part substitute rest)) := by
        rw [replace_append_of_absent _ opened, replace_append_self nonempty,
          replace_append_of_absent _ closed]
    _ = before ++ substitute ++ after ++ replace part substitute rest := by
        simp only [List.append_assoc]

end Proviso.Text
