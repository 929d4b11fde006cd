import Proviso.Proofs.Pattern.Closing

/-!
Patterns between parentheses. Alternatives, and groups of them, that are read by themselves are read
in front of a closing parenthesis as well, which then closes the group that was opened around them.
-/

namespace Proviso

namespace PatternReader

open PatternFlags

variable {flags : PatternFlags} {text longer : List Char}

/-! ## Counts and names -/

theorem takeDigits_end (closes : Closes [] longer) (fuel : Nat) :
    readCount?.takeDigits flags fuel longer = ([], longer) := by
  rcases closes with rfl | ⟨-, rfl⟩ <;> cases fuel <;> rfl

theorem takeDigits_beside {fuel more : Nat} (closes : Closes text longer)
    (enough : text.length ≤ fuel) (enoughMore : longer.length ≤ more) :
    Beside Closes (readCount?.takeDigits flags fuel text)
      (readCount?.takeDigits flags more longer) := by
  induction fuel generalizing text longer more with
  | zero =>
    cases List.length_eq_zero_iff.mp (Nat.le_zero.mp enough)
    rw [takeDigits_end closes]
    exact ⟨rfl, closes⟩
  | succ fuel induction =>
    cases text with
    | nil =>
      rw [takeDigits_end closes]
      exact ⟨rfl, closes⟩
    | cons char rest =>
      rcases closes.exists_cons with ⟨beyond, rfl, behind⟩
      rw [List.length_cons] at enough enoughMore
      have short := length_skip_le flags rest
      have shortBeyond := length_skip_le flags beyond
      rcases Nat.exists_eq_succ_of_ne_zero (Nat.ne_zero_of_lt enoughMore) with ⟨more, rfl⟩
      unfold readCount?.takeDigits
      simp only
      split
      · have skipped : Closes (flags.skip rest) (flags.skip beyond) := closes_skip behind
        have onward : Beside Closes (readCount?.takeDigits flags fuel (flags.skip rest))
            (readCount?.takeDigits flags more (flags.skip beyond)) :=
          induction skipped (by omega) (by omega)
        exact ⟨congrArg (char :: ·) onward.1, onward.2⟩
      · exact ⟨rfl, closes⟩

theorem dropBlanks_end (closes : Closes [] longer) (fuel : Nat) :
    readCount?.dropBlanks flags fuel longer = longer := by
  rcases closes with rfl | ⟨-, rfl⟩ <;> cases fuel <;> rfl

theorem dropBlanks_closes {fuel more : Nat} (closes : Closes text longer)
    (enough : text.length ≤ fuel) (enoughMore : longer.length ≤ more) :
    Closes (readCount?.dropBlanks flags fuel text) (readCount?.dropBlanks flags more longer) := by
  induction fuel generalizing text longer more with
  | zero =>
    cases List.length_eq_zero_iff.mp (Nat.le_zero.mp enough)
    rw [dropBlanks_end closes]
    exact closes
  | succ fuel induction =>
    cases text with
    | nil =>
      rw [dropBlanks_end closes]
      exact closes
    | cons char rest =>
      rcases closes.exists_cons with ⟨beyond, rfl, behind⟩
      rw [List.length_cons] at enough enoughMore
      have short := length_skip_le flags rest
      have shortBeyond := length_skip_le flags beyond
      rcases Nat.exists_eq_succ_of_ne_zero (Nat.ne_zero_of_lt enoughMore) with ⟨more, rfl⟩
      unfold readCount?.dropBlanks
      simp only
      split
      · exact induction (closes_skip behind) (by omega) (by omega)
      · exact closes

theorem readCount?_carried (closes : Closes text longer) :
    Carried (Beside Closes) (readCount? flags text) (readCount? flags longer) := by
  unfold readCount?
  have dropped : Closes (text.dropWhile Text.isBlank) (longer.dropWhile Text.isBlank) :=
    closes.dropWhile _
  have digits : Beside Closes
      (readCount?.takeDigits flags text.length (text.dropWhile Text.isBlank))
      (readCount?.takeDigits flags longer.length (longer.dropWhile Text.isBlank)) :=
    takeDigits_beside dropped (List.dropWhile_sublist _).length_le
      (List.dropWhile_sublist _).length_le
  generalize readCount?.takeDigits flags text.length (text.dropWhile Text.isBlank) = first,
    readCount?.takeDigits flags longer.length (longer.dropWhile Text.isBlank) = second at digits
  rcases first with ⟨digits, rest⟩
  rcases second with ⟨_, beyond⟩
  rcases digits with ⟨⟨⟩, closes⟩
  refine .ite (fun _ => .none) fun _ => .ite (fun _ => .none) fun _ => ?_
  exact .some ⟨rfl, dropBlanks_closes closes (Nat.le_refl _) (Nat.le_refl _)⟩

theorem readCounts?_carried (closes : Closes text longer) :
    Carried (Beside (Beside Closes)) (readCounts? flags text) (readCounts? flags longer) := by
  unfold readCounts?
  apply (readCount?_carried (closes_skip closes)).bind_beside
  intro least rest beyond closes
  dsimp only
  split
  case h_1 =>
    rcases closes.exists_cons with ⟨beyond, rfl, behind⟩
    exact .some ⟨rfl, rfl, behind⟩
  case h_2 rest =>
    rcases closes.exists_cons with ⟨beyond, rfl, behind⟩
    have skipped : Closes (flags.skip rest) (flags.skip beyond) := closes_skip behind
    simp only
    generalize flags.skip rest = inner, flags.skip beyond = outer at skipped
    rcases skipped.starts '\x7d' (by decide) with ⟨inner, outer, rfl, rfl, onward⟩ | ⟨plain, other⟩
    case inl => exact .some ⟨rfl, rfl, onward⟩
    case inr =>
      simp only
      apply (readCount?_carried skipped).bind_beside
      intro most rest beyond closes
      dsimp only
      split
      case h_1 =>
        rcases closes.exists_cons with ⟨beyond, rfl, behind⟩
        exact .ite (fun _ => .some ⟨rfl, rfl, behind⟩) fun _ => .none
      case h_2 => exact .none
  case h_3 => exact .none

theorem readName?_carried (closes : Closes text longer) :
    Carried (Beside Closes) (readName? text) (readName? longer) := by
  unfold readName?
  have dropped := closes.dropWhile (· != '>')
  dsimp only
  split
  case h_1 isName isEnd =>
    rw [isEnd] at dropped
    rcases dropped.exists_cons with ⟨beyond, isBeyond, behind⟩
    rw [closes.takeWhile isEnd, isName, isBeyond]
    exact .ite (fun _ => .some ⟨rfl, behind⟩) fun _ => .none
  case h_2 => exact .none

theorem readFlags?_carried {used : List Char} {value : Bool} (closes : Closes text longer) :
    Carried (Beside (Beside Closes)) (readFlags? flags used value text)
      (readFlags? flags used value longer) := by
  induction text generalizing flags used value longer with
  | nil => exact .none
  | cons char rest induction =>
    rcases closes.exists_cons with ⟨beyond, rfl, behind⟩
    unfold readFlags?
    refine .ite (fun _ => ?_) fun _ => .ite (fun _ => .none) fun _ => ?_
    · exact .ite (fun _ => .none) fun _ => .some ⟨rfl, rfl, closes⟩
    · exact .ite (fun _ => induction behind) fun _ => .bind_same _ fun _ => induction behind

theorem readGreed_beside (closes : Closes text longer) :
    Beside Closes (readGreed flags text) (readGreed flags longer) := by
  unfold readGreed
  rcases closes.starts '?' (by decide) with ⟨inner, outer, rfl, rfl, behind⟩ | ⟨plain, other⟩
  case inl => exact ⟨rfl, behind⟩
  case inr =>
    simp only
    exact ⟨rfl, closes⟩

/-! ## Alternatives and groups -/

/-- What is read of alternatives is read in front of the closing parenthesis, where there are more
steps to read it with. -/
def ChoiceCarried (fuel more : Nat) : Prop :=
  ∀ {scope choices items text longer}, Closes text longer →
    Carried (Beside (Beside Closes)) (readChoice? fuel scope choices items text)
      (readChoice? more scope choices items longer)

def GroupCarried (fuel more : Nat) : Prop :=
  ∀ {scope text longer}, Closes text longer →
    Carried (Beside (Beside Closes)) (readGroup? fuel scope text) (readGroup? more scope longer)

theorem choiceCarried_succ {fuel more : Nat} (choice : ChoiceCarried fuel more)
    (group : GroupCarried fuel more) (enough : fuel ≤ more) :
    ChoiceCarried (fuel + 1) (more + 1) := by
  intro scope choices items text longer closes
  have skipped : Closes (scope.flags.skip text) (scope.flags.skip longer) := closes_skip closes
  have repetition (least : Nat) (most : Option Nat) {rest beyond : List Char}
      (closes : Closes rest beyond) :
      Carried (Beside (Beside Closes))
        ((repeatLast? items fun piece =>
            repeated piece least most (readGreed scope.flags rest).1).bind fun items =>
          readChoice? fuel scope choices items (readGreed scope.flags rest).2)
        ((repeatLast? items fun piece =>
            repeated piece least most (readGreed scope.flags beyond).1).bind fun items =>
          readChoice? more scope choices items (readGreed scope.flags beyond).2) := by
    have greed : Beside Closes (readGreed scope.flags rest) (readGreed scope.flags beyond) :=
      readGreed_beside closes
    rw [greed.1]
    exact .bind_same _ fun _ => choice greed.2
  unfold readChoice?
  dsimp only
  generalize scope.flags.skip text = inner, scope.flags.skip longer = outer at skipped
  split
  case h_1 =>
    -- The alternatives end, be it in front of the parenthesis or with a comment that swallows it.
    rcases skipped with rfl | ⟨-, rfl⟩
    · exact .some ⟨rfl, rfl, .inl rfl⟩
    · exact .some ⟨rfl, rfl, .inr ⟨rfl, rfl⟩⟩
  case h_2 =>
    rcases skipped.exists_cons with ⟨beyond, rfl, behind⟩
    exact .some ⟨rfl, rfl, skipped⟩
  case h_3 =>
    rcases skipped.exists_cons with ⟨beyond, rfl, behind⟩
    exact choice behind
  case h_4 rest =>
    rcases skipped.exists_cons with ⟨beyond, rfl, behind⟩
    apply (group (closes_skip behind)).bind_beside
    rintro item ⟨scope, rest⟩ ⟨_, beyond⟩ ⟨⟨⟩, closes⟩
    exact choice closes
  case h_5 rest =>
    rcases skipped.exists_cons with ⟨beyond, rfl, behind⟩
    have opened : Beside (Beside Closes) (openClass scope.flags rest)
        (openClass scope.flags beyond) :=
      openClass_beside behind
    simp only
    generalize openClass scope.flags rest = first, openClass scope.flags beyond = second at opened
    rcases first with ⟨negated, bracket, rest⟩
    rcases second with ⟨_, _, beyond⟩
    rcases opened with ⟨rfl, rfl, closes⟩
    exact (readClass?_carried closes enough).bind_beside fun _ _ _ closes => choice closes
  case h_6 | h_7 | h_8 =>
    rcases skipped.exists_cons with ⟨beyond, rfl, behind⟩
    exact repetition _ _ behind
  case h_9 =>
    rcases skipped.exists_cons with ⟨beyond, rfl, behind⟩
    apply (readCounts?_carried behind).bind_beside
    rintro least ⟨most, rest⟩ ⟨_, beyond⟩ ⟨⟨⟩, closes⟩
    exact repetition least most (closes_skip closes)
  case h_10 =>
    rcases skipped.exists_cons with ⟨beyond, rfl, behind⟩
    apply (readEscape?_carried behind).bind_beside
    intro escaped rest beyond closes
    exact .bind_same _ fun _ => choice closes
  case h_11 =>
    rcases skipped.exists_cons with ⟨beyond, rfl, behind⟩
    exact .bind_same _ fun _ => choice behind
  case h_12 | h_13 =>
    rcases skipped.exists_cons with ⟨beyond, rfl, behind⟩
    exact choice behind
  case h_14 =>
    rcases skipped.exists_cons with ⟨beyond, rfl, behind⟩
    simp only
    exact choice behind

theorem groupCarried_succ {fuel more : Nat} (choice : ChoiceCarried fuel more) :
    GroupCarried (fuel + 1) (more + 1) := by
  intro scope text longer closes
  unfold readGroup?
  extract_lets body captured named otherBody otherCaptured otherNamed
  have bodies (inner : Scope) {text longer : List Char} (closes : Closes text longer) :
      Carried (Beside (Beside Closes)) (body inner text) (otherBody inner longer) := by
    apply (choice closes).bind_beside
    rintro piece ⟨inner, rest⟩ ⟨_, beyond⟩ ⟨⟨⟩, closes⟩
    dsimp only
    split
    case h_1 =>
      rcases closes.exists_cons with ⟨beyond, rfl, behind⟩
      exact .some ⟨rfl, rfl, behind⟩
    case h_2 => exact .none
  have captures (inner : Scope) {text longer : List Char} (closes : Closes text longer) :
      Carried (Beside (Beside Closes)) (captured inner text) (otherCaptured inner longer) :=
    (bodies inner closes).map_beside fun _ _ _ same => ⟨rfl, same⟩
  have names {text longer : List Char} (closes : Closes text longer) :
      Carried (Beside (Beside Closes)) (named text) (otherNamed longer) := by
    apply (readName?_carried closes).bind_beside
    intro name rest beyond closes
    exact .ite (fun _ => .none) fun _ => captures _ closes
  split
  case h_5 =>
    rcases closes.exists_cons with ⟨beyond, rfl, behind⟩
    rcases behind.exists_cons with ⟨beyond, rfl, further⟩
    rcases further.exists_cons with ⟨beyond, rfl, onward⟩
    exact names onward
  case h_6 noEqual noBang =>
    rcases closes.exists_cons with ⟨beyond, rfl, behind⟩
    rcases behind.exists_cons with ⟨beyond, rfl, onward⟩
    have noEqual := onward.ne_cons noEqual (by decide)
    have noBang := onward.ne_cons noBang (by decide)
    simp only
    exact names onward
  case h_7 noEqual noBang noBehind noBehindNot noName noAngle =>
    rcases closes.exists_cons with ⟨beyond, rfl, behind⟩
    have noEqual := behind.ne_cons noEqual (by decide)
    have noBang := behind.ne_cons noBang (by decide)
    have noBehind := behind.ne_cons_cons noBehind (by decide) (by decide)
    have noBehindNot := behind.ne_cons_cons noBehindNot (by decide) (by decide)
    have noName := behind.ne_cons_cons noName (by decide) (by decide)
    have noAngle := behind.ne_cons noAngle (by decide)
    simp only
    apply (readFlags?_carried behind).bind_beside
    rintro flags ⟨used, rest⟩ ⟨_, beyond⟩ ⟨⟨⟩, closes⟩
    dsimp only
    split
    case h_1 =>
      rcases closes.exists_cons with ⟨beyond, rfl, onward⟩
      exact bodies ⟨flags, scope.names⟩ onward
    case h_2 =>
      rcases closes.exists_cons with ⟨beyond, rfl, onward⟩
      exact .ite (fun _ => .none) fun _ => .some ⟨rfl, rfl, onward⟩
    case h_3 => exact .none
  case h_8 plain =>
    have plain := closes.ne_cons plain (by decide)
    split
    case h_8 => exact captures scope closes
    all_goals exact absurd rfl (plain _)
  all_goals exact .none

theorem choiceCarried_and_groupCarried {fuel more : Nat} (enough : fuel ≤ more) :
    ChoiceCarried fuel more ∧ GroupCarried fuel more := by
  induction fuel generalizing more with
  | zero => exact ⟨fun _ => .none, fun _ => .none⟩
  | succ fuel induction =>
    rcases Nat.exists_eq_succ_of_ne_zero (Nat.ne_zero_of_lt enough) with ⟨more, rfl⟩
    have enough : fuel ≤ more := Nat.le_of_succ_le_succ enough
    rcases induction enough with ⟨choice, group⟩
    exact ⟨choiceCarried_succ choice group enough, groupCarried_succ choice⟩

/-! ## Bound patterns -/

theorem readGroup?_plain (fuel : Nat) (text : List Char) :
    readGroup? (fuel + 1) {} ('?' :: ':' :: text) =
      (readChoice? fuel {} [] [] text).bind fun (piece, inner, rest) =>
        match rest with
        | ')' :: rest => some (some ⟨piece.pattern, piece.depth + 1⟩, ⟨{}, inner.names⟩, rest)
        | _ => none :=
  rfl

theorem readChoice?_bound (fuel : Nat) (text : List Char) :
    readChoice? (fuel + 2) {} [] [] ('^' :: '(' :: text) =
      (readGroup? fuel {} text).bind fun (item, scope, rest) =>
        readChoice? fuel scope [] [item, some ⟨.assertion .textStart, 0⟩] rest :=
  rfl

/-- What can be read of a text by itself is read inside the parentheses that bind it. -/
theorem pattern_of_bound {fuel more : Nat} {text rest : List Char} {piece whole : Piece}
    {scope outer : Scope} (enough : fuel ≤ more)
    (isAlone : readChoice? fuel {} [] [] text = some (piece, scope, []))
    (isRead : readChoice? (more + 3) {} [] [] ('^' :: '(' :: '?' :: ':' :: (text ++ [')'])) =
      some (whole, outer, rest)) :
    whole.pattern = .concat [.assertion .textStart, piece.pattern] := by
  have carried : Carried (Beside (Beside Closes)) (readChoice? fuel {} [] [] text)
      (readChoice? more {} [] [] (text ++ [')'])) :=
    (choiceCarried_and_groupCarried enough).1 (Closes.appended text)
  rcases carried _ isAlone with ⟨⟨_, _, beyond⟩, isBeyond, rfl, rfl, closes⟩
  rw [readChoice?_bound, readGroup?_plain, isBeyond] at isRead
  rcases closes with rfl | ⟨-, rfl⟩
  case inl =>
    cases isRead
    rfl
  case inr =>
    -- The parenthesis is part of a comment, so that the group has none.
    cases isRead

end PatternReader

end Proviso
