/-!
Positions in a text counted in bytes of its UTF-8 encoding. Only positions between two
characters can be cut at; a cut anywhere else, or beyond the end, has no answer.
-/

namespace Proviso.Text

def byteLength : List Char → Nat
  | [] => 0
  | char :: rest => char.utf8Size + byteLength rest

@[simp] theorem byteLength_nil : byteLength [] = 0 := rfl

@[simp] theorem byteLength_cons (char : Char) (rest : List Char) :
    byteLength (char :: rest) = char.utf8Size + byteLength rest := rfl

@[simp] theorem byteLength_append (first second : List Char) :
    byteLength (first ++ second) = byteLength first + byteLength second := by
  induction first with
  | nil => simp
  | cons char rest induction => simp [induction, Nat.add_assoc]

theorem length_le_byteLength (text : List Char) : text.length ≤ byteLength text := by
  induction text with
  | nil => simp
  | cons char rest induction =>
    have := char.utf8Size_pos
    simp
    omega

/-! ## Cutting -/

def dropBytes? : List Char → Nat → Option (List Char)
  | text, 0 => some text
  | [], _ + 1 => none
  | char :: rest, count + 1 =>
    if char.utf8Size ≤ count + 1 then dropBytes? rest (count + 1 - char.utf8Size) else none

def takeBytes? : List Char → Nat → Option (List Char)
  | _, 0 => some []
  | [], _ + 1 => none
  | char :: rest, count + 1 =>
    if char.utf8Size ≤ count + 1 then
      (takeBytes? rest (count + 1 - char.utf8Size)).map (char :: ·)
    else none

def slice? (text : List Char) (start stop : Nat) : Option (List Char) :=
  if start ≤ stop then (dropBytes? text start).bind (takeBytes? · (stop - start)) else none

def Boundary (text : List Char) (position : Nat) : Prop :=
  ∃ before after, text = before ++ after ∧ byteLength before = position

@[simp] theorem dropBytes?_zero (text : List Char) : dropBytes? text 0 = some text := by
  cases text <;> rfl

@[simp] theorem takeBytes?_zero (text : List Char) : takeBytes? text 0 = some [] := by
  cases text <;> rfl

theorem exists_utf8Size_add_eq (char : Char) (count : Nat) :
    ∃ more, char.utf8Size + count = more + 1 := by
  have positive := char.utf8Size_pos
  exact ⟨char.utf8Size + count - 1, by omega⟩

theorem dropBytes?_cons (char : Char) (rest : List Char) (count : Nat) :
    dropBytes? (char :: rest) (char.utf8Size + count) = dropBytes? rest count := by
  rcases exists_utf8Size_add_eq char count with ⟨more, total⟩
  have fits : char.utf8Size ≤ more + 1 := Nat.le.intro total
  rw [total, dropBytes?, if_pos fits, ← total, Nat.add_sub_cancel_left]

theorem takeBytes?_cons (char : Char) (rest : List Char) (count : Nat) :
    takeBytes? (char :: rest) (char.utf8Size + count) =
      (takeBytes? rest count).map (char :: ·) := by
  rcases exists_utf8Size_add_eq char count with ⟨more, total⟩
  have fits : char.utf8Size ≤ more + 1 := Nat.le.intro total
  rw [total, takeBytes?, if_pos fits, ← total, Nat.add_sub_cancel_left]

theorem dropBytes?_append (before after : List Char) :
    dropBytes? (before ++ after) (byteLength before) = some after := by
  induction before with
  | nil => simp
  | cons char rest induction =>
    rw [List.cons_append, byteLength_cons, dropBytes?_cons, induction]

theorem takeBytes?_append (before after : List Char) :
    takeBytes? (before ++ after) (byteLength before) = some before := by
  induction before with
  | nil => simp
  | cons char rest induction =>
    rw [List.cons_append, byteLength_cons, takeBytes?_cons, induction, Option.map_some]

theorem slice?_append (before middle after : List Char) :
    slice? (before ++ middle ++ after) (byteLength before)
      (byteLength before + byteLength middle) = some middle := by
  rw [slice?, if_pos (Nat.le_add_right ..), List.append_assoc, dropBytes?_append]
  simp [takeBytes?_append]

theorem dropBytes?_eq_some {text after : List Char} {count : Nat}
    (dropped : dropBytes? text count = some after) :
    ∃ before, text = before ++ after ∧ byteLength before = count := by
  induction text generalizing count with
  | nil =>
    cases count with
    | zero => exact ⟨[], by simpa [dropBytes?] using dropped, rfl⟩
    | succ count => simp [dropBytes?] at dropped
  | cons char rest induction =>
    cases count with
    | zero => exact ⟨[], by simpa using dropped, rfl⟩
    | succ count =>
      rw [dropBytes?] at dropped
      split at dropped
      · rcases induction dropped with ⟨before, equal, length⟩
        exact ⟨char :: before, by simp [equal], by simp [length]; omega⟩
      · contradiction

theorem dropBytes?_isSome_iff {text : List Char} {position : Nat} :
    (dropBytes? text position).isSome = true ↔ Boundary text position := by
  constructor
  · intro present
    rcases Option.isSome_iff_exists.1 present with ⟨after, dropped⟩
    rcases dropBytes?_eq_some dropped with ⟨before, equal, length⟩
    exact ⟨before, after, equal, length⟩
  · rintro ⟨before, after, rfl, rfl⟩
    simp [dropBytes?_append]

end Proviso.Text
