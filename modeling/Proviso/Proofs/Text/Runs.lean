import Mathlib.Data.List.TakeWhile

/-!
Runs of characters: the longest stretch at the start of a text whose characters all pass a test,
and what stands behind it.
-/

namespace Proviso.Text

theorem takeWhile_append_of_head {test : Char → Bool} {rest : List Char}
    (ends : ∀ char ∈ rest.head?, test char = false) (text : List Char) :
    (text ++ rest).takeWhile test = text.takeWhile test := by
  have nothing : rest.takeWhile test = [] := by
    cases rest with
    | nil => rfl
    | cons char rest => simp [ends char rfl]
  induction text with
  | nil => exact nothing
  | cons char text induction => simp [List.takeWhile_cons, induction]

theorem takeWhile_append_eq {test : Char → Bool} {text rest : List Char}
    (inside : ∀ char ∈ text, test char = true) (ends : ∀ char ∈ rest.head?, test char = false) :
    (text ++ rest).takeWhile test = text := by
  rw [takeWhile_append_of_head ends, List.takeWhile_eq_self_iff.mpr inside]

theorem dropWhile_eq_self {test : Char → Bool} {text : List Char}
    (ends : ∀ char ∈ text.head?, test char = false) : text.dropWhile test = text := by
  cases text with
  | nil => rfl
  | cons char rest => simp [ends char rfl]

theorem dropWhile_append_eq {test : Char → Bool} {text rest : List Char}
    (inside : ∀ char ∈ text, test char = true) (ends : ∀ char ∈ rest.head?, test char = false) :
    (text ++ rest).dropWhile test = rest := by
  rw [List.dropWhile_append_of_pos inside, dropWhile_eq_self ends]

theorem exists_run (test : Char → Bool) (text : List Char) :
    ∃ run rest, (∀ char ∈ run, test char = true) ∧ (∀ char ∈ rest.head?, test char = false) ∧
      run ++ rest = text := by
  refine ⟨text.takeWhile test, text.dropWhile test, fun char => List.mem_takeWhile_imp, ?_,
    List.takeWhile_append_dropWhile⟩
  intro char isHead
  have stops := List.head?_dropWhile_not test text
  rwa [Option.mem_def.mp isHead] at stops

end Proviso.Text
