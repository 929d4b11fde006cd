import Proviso.Pattern.Reader

/-!
Patterns in front of a closing parenthesis. What is read of a text is read in the same way where the
text goes on with a closing parenthesis, since that takes no part in anything that began before it.
Only a comment can swallow it; then nothing is left of either text.
-/

namespace Proviso

/-- Whether a text goes on with a closing parenthesis, or is used up with it. -/
def Closes (text longer : List Char) : Prop :=
  longer = text ++ [')'] ∨ text = [] ∧ longer = []

namespace Closes

variable {text longer rest : List Char} {char : Char}

theorem appended (text : List Char) : Closes text (text ++ [')']) :=
  .inl rfl

theorem exists_cons (closes : Closes (char :: rest) longer) :
    ∃ beyond, longer = char :: beyond ∧ Closes rest beyond := by
  rcases closes with rfl | ⟨isNil, -⟩
  · exact ⟨rest ++ [')'], rfl, appended rest⟩
  · cases isNil

theorem exists_of_cons (closes : Closes text longer) (isCons : longer = char :: rest)
    (other : char ≠ ')') : ∃ inner, text = char :: inner ∧ Closes inner rest := by
  subst isCons
  cases text with
  | nil =>
    rcases closes with equal | ⟨-, isNil⟩
    · exact absurd (List.cons.inj equal).1 other
    · cases isNil
  | cons first inner =>
    rcases closes.exists_cons with ⟨beyond, equal, closes⟩
    cases equal
    exact ⟨inner, rfl, closes⟩

theorem dropWhile (closes : Closes text longer) (drops : Char → Bool) :
    Closes (text.dropWhile drops) (longer.dropWhile drops) := by
  rcases closes with rfl | ⟨rfl, rfl⟩
  · rw [List.dropWhile_append]
    split
    case isTrue isEmpty =>
      rw [List.isEmpty_iff.mp isEmpty, List.dropWhile_cons]
      split
      · exact .inr ⟨rfl, rfl⟩
      · exact .inl rfl
    case isFalse => exact appended _
  · exact .inr ⟨rfl, rfl⟩

theorem drop (closes : Closes text longer) : Closes (text.drop 1) (longer.drop 1) := by
  cases text with
  | nil => rcases closes with rfl | ⟨-, rfl⟩ <;> exact .inr ⟨rfl, rfl⟩
  | cons char rest =>
    rcases closes.exists_cons with ⟨beyond, rfl, behind⟩
    exact behind

theorem length_le (closes : Closes text longer) : text.length ≤ longer.length := by
  rcases closes with rfl | ⟨rfl, rfl⟩
  · exact List.length_append ▸ Nat.le_add_right _ _
  · exact Nat.le_refl _

theorem ne_cons (closes : Closes text longer) (plain : ∀ inner, text ≠ char :: inner)
    (other : char ≠ ')') (outer : List Char) : longer ≠ char :: outer := by
  intro isCons
  rcases closes.exists_of_cons isCons other with ⟨inner, isText, -⟩
  exact plain inner isText

theorem ne_cons_cons {second : Char} (closes : Closes text longer)
    (plain : ∀ inner, text ≠ char :: second :: inner) (other : char ≠ ')') (further : second ≠ ')')
    (outer : List Char) : longer ≠ char :: second :: outer := by
  intro isCons
  rcases closes.exists_of_cons isCons other with ⟨rest, rfl, behind⟩
  rcases behind.exists_of_cons rfl further with ⟨inner, rfl, -⟩
  exact plain inner rfl

theorem starts (closes : Closes text longer) (char : Char) (other : char ≠ ')') :
    (∃ inner outer, text = char :: inner ∧ longer = char :: outer ∧ Closes inner outer) ∨
      (∀ inner, text ≠ char :: inner) ∧ ∀ outer, longer ≠ char :: outer := by
  by_cases isCons : ∃ inner, text = char :: inner
  case pos =>
    rcases isCons with ⟨inner, rfl⟩
    rcases closes.exists_cons with ⟨outer, rfl, behind⟩
    exact .inl ⟨inner, outer, rfl, rfl, behind⟩
  case neg =>
    have plain : ∀ inner, text ≠ char :: inner := fun inner isText => isCons ⟨inner, isText⟩
    exact .inr ⟨plain, closes.ne_cons plain other⟩

theorem head?_eq_some (closes : Closes text longer) (other : char ≠ ')') :
    longer.head? = some char ↔ text.head? = some char := by
  cases text with
  | nil => rcases closes with rfl | ⟨-, rfl⟩ <;> simp [other.symm]
  | cons first rest =>
    rcases closes.exists_cons with ⟨beyond, rfl, -⟩
    rfl

theorem takeWhile (closes : Closes text longer) {takes : Char → Bool}
    (ends : text.dropWhile takes = char :: rest) :
    longer.takeWhile takes = text.takeWhile takes := by
  induction text generalizing longer with
  | nil => cases ends
  | cons first inner induction =>
    rcases closes.exists_cons with ⟨beyond, rfl, behind⟩
    rw [List.dropWhile_cons] at ends
    rw [List.takeWhile_cons, List.takeWhile_cons]
    split
    case isTrue isTaken =>
      rw [if_pos isTaken] at ends
      rw [induction behind ends]
    case isFalse => rfl

end Closes

namespace PatternFlags

variable {flags : PatternFlags} {text longer : List Char}

theorem go_comment (fuel : Nat) (rest : List Char) :
    skip.go (fuel + 1) ('#' :: rest) = skip.go fuel ((rest.dropWhile (· != '\n')).drop 1) :=
  rfl

theorem go_of_ne {char : Char} (plain : char ≠ '#') (fuel : Nat) (rest : List Char) :
    skip.go (fuel + 1) (char :: rest) =
      if Text.isBlank char then skip.go fuel rest else char :: rest := by
  rw [skip.go]
  exact fun isComment => plain isComment

theorem length_dropLine_le (text : List Char) :
    ((text.dropWhile (· != '\n')).drop 1).length ≤ text.length := by
  have dropped : (text.dropWhile (· != '\n')).length ≤ text.length :=
    (List.dropWhile_sublist _).length_le
  rw [List.length_drop]
  omega

theorem length_go_le (fuel : Nat) (text : List Char) :
    (skip.go fuel text).length ≤ text.length := by
  induction fuel generalizing text with
  | zero => exact Nat.le_refl _
  | succ fuel induction =>
    cases text with
    | nil => exact Nat.le_refl _
    | cons char rest =>
      by_cases isComment : char = '#'
      case pos =>
        subst isComment
        rw [go_comment, List.length_cons]
        exact Nat.le_succ_of_le (Nat.le_trans (induction _) (length_dropLine_le rest))
      case neg =>
        rw [go_of_ne isComment]
        split
        · exact Nat.le_succ_of_le (induction rest)
        · exact Nat.le_refl _

theorem closes_go {fuel more : Nat} (closes : Closes text longer) (enough : text.length < fuel)
    (enoughMore : longer.length < more) :
    Closes (skip.go fuel text) (skip.go more longer) := by
  induction fuel generalizing text longer more with
  | zero => exact absurd enough (Nat.not_lt_zero _)
  | succ fuel induction =>
    cases more with
    | zero => exact absurd enoughMore (Nat.not_lt_zero _)
    | succ more =>
      cases text with
      | nil =>
        rcases closes with rfl | ⟨-, rfl⟩
        · exact .inl rfl
        · exact .inr ⟨rfl, rfl⟩
      | cons char rest =>
        rcases closes.exists_cons with ⟨beyond, rfl, behind⟩
        rw [List.length_cons] at enough enoughMore
        by_cases isComment : char = '#'
        case pos =>
          subst isComment
          have short := length_dropLine_le rest
          have shortBeyond := length_dropLine_le beyond
          rw [go_comment, go_comment]
          exact induction (behind.dropWhile _).drop (by omega) (by omega)
        case neg =>
          rw [go_of_ne isComment, go_of_ne isComment]
          split
          · exact induction behind (by omega) (by omega)
          · exact closes

theorem closes_skip (closes : Closes text longer) :
    Closes (flags.skip text) (flags.skip longer) := by
  unfold skip
  split
  · exact closes_go closes (Nat.lt_succ_self _) (Nat.lt_succ_self _)
  · exact closes

theorem length_skip_le (flags : PatternFlags) (text : List Char) :
    (flags.skip text).length ≤ text.length := by
  unfold skip
  split
  · exact length_go_le _ _
  · exact Nat.le_refl _

end PatternFlags

/-! ## Readings side by side -/

/-- What one reading gives is given by another as well, up to a relation. -/
def Carried {Read : Type} (related : Read → Read → Prop) (first second : Option Read) : Prop :=
  ∀ read, first = some read → ∃ other, second = some other ∧ related read other

def Beside {Read Rest : Type} (related : Rest → Rest → Prop) (first second : Read × Rest) : Prop :=
  first.1 = second.1 ∧ related first.2 second.2

namespace Carried

variable {Read Other Rest : Type} {related : Read → Read → Prop} {next : Other → Other → Prop}
  {behind : Rest → Rest → Prop}

theorem none {second : Option Read} : Carried related none second :=
  fun _ isNone => nomatch isNone

theorem some {first second : Read} (holds : related first second) :
    Carried related (some first) (some second) := by
  intro read isRead
  cases isRead
  exact ⟨second, rfl, holds⟩

theorem bind {first second : Option Read} {onward other : Read → Option Other}
    (carried : Carried related first second)
    (each : ∀ read again, related read again → Carried next (onward read) (other again)) :
    Carried next (first.bind onward) (second.bind other) := by
  intro read isRead
  rcases Option.bind_eq_some_iff.mp isRead with ⟨middle, isMiddle, isRead⟩
  rcases carried middle isMiddle with ⟨between, isBetween, holds⟩
  rcases each middle between holds read isRead with ⟨reached, isReached, holds⟩
  exact ⟨reached, Option.bind_eq_some_iff.mpr ⟨between, isBetween, isReached⟩, holds⟩

theorem bind_beside {first second : Option (Read × Rest)}
    {onward other : Read × Rest → Option Other}
    (carried : Carried (Beside behind) first second)
    (each : ∀ read rest beyond, behind rest beyond →
      Carried next (onward (read, rest)) (other (read, beyond))) :
    Carried next (first.bind onward) (second.bind other) := by
  refine carried.bind ?_
  rintro ⟨read, rest⟩ ⟨_, beyond⟩ ⟨⟨⟩, holds⟩
  exact each read rest beyond holds

theorem map_beside {first second : Option (Read × Rest)} {onward other : Read × Rest → Other}
    (carried : Carried (Beside behind) first second)
    (each : ∀ read rest beyond, behind rest beyond →
      next (onward (read, rest)) (other (read, beyond))) :
    Carried next (first.map onward) (second.map other) := by
  rw [Option.map_eq_bind, Option.map_eq_bind]
  exact carried.bind_beside fun read rest beyond holds => .some (each read rest beyond holds)

theorem bind_same (value : Option Read) {onward other : Read → Option Other}
    (each : ∀ read, Carried next (onward read) (other read)) :
    Carried next (value.bind onward) (value.bind other) := by
  cases value with
  | none => exact none
  | some read => exact each read

theorem map_same (value : Option Read) {onward other : Read → Other}
    (each : ∀ read, next (onward read) (other read)) :
    Carried next (value.map onward) (value.map other) := by
  cases value with
  | none => exact none
  | some read => exact some (each read)

theorem ite {condition : Prop} [Decidable condition] {first second third fourth : Option Read}
    (holds : condition → Carried related first third)
    (fails : ¬ condition → Carried related second fourth) :
    Carried related (if condition then first else second)
      (if condition then third else fourth) := by
  split
  case isTrue isTrue => exact holds isTrue
  case isFalse isFalse => exact fails isFalse

end Carried

namespace PatternReader

open PatternFlags

variable {flags : PatternFlags} {text longer : List Char}

/-! ## Characters -/

theorem takeSkipping?_carried {count : Nat} (closes : Closes text longer) :
    Carried (Beside Closes) (takeSkipping? flags count text)
      (takeSkipping? flags count longer) := by
  induction count generalizing text longer with
  | zero => exact .some ⟨rfl, closes⟩
  | succ count induction =>
    cases text with
    | nil => exact .none
    | cons char inner =>
      rcases closes.exists_cons with ⟨beyond, rfl, behind⟩
      exact (induction (closes_skip behind)).map_beside fun _ _ _ closes => ⟨rfl, closes⟩

theorem takeBraced?_of_ne {fuel : Nat} {char : Char} (plain : char ≠ '\x7d') (rest : List Char) :
    takeBraced? flags (fuel + 1) (char :: rest) =
      (takeBraced? flags fuel (flags.skip rest)).map
        fun (chars, rest) => (char :: chars, rest) := by
  rw [takeBraced?]
  exact fun isBrace => plain isBrace

theorem takeBraced?_carried {fuel more : Nat} (closes : Closes text longer) (enough : fuel ≤ more) :
    Carried (Beside Closes) (takeBraced? flags fuel text) (takeBraced? flags more longer) := by
  induction fuel generalizing text longer more with
  | zero => exact .none
  | succ fuel induction =>
    rcases Nat.exists_eq_succ_of_ne_zero (Nat.ne_zero_of_lt enough) with ⟨more, rfl⟩
    cases text with
    | nil => exact .none
    | cons char inner =>
      rcases closes.exists_cons with ⟨beyond, rfl, behind⟩
      by_cases isBrace : char = '\x7d'
      case pos =>
        subst isBrace
        exact .some ⟨rfl, behind⟩
      case neg =>
        rw [takeBraced?_of_ne isBrace, takeBraced?_of_ne isBrace]
        exact (induction (closes_skip behind) (Nat.le_of_succ_le_succ enough)).map_beside
          fun _ _ _ closes => ⟨rfl, closes⟩

theorem readHex?_carried {digits : Nat} (closes : Closes text longer) :
    Carried (Beside Closes) (readHex? flags digits text) (readHex? flags digits longer) := by
  unfold readHex?
  have skipped : Closes (flags.skip text) (flags.skip longer) := closes_skip closes
  generalize flags.skip text = inner, flags.skip longer = outer at skipped
  rcases skipped.starts '\x7b' (by decide) with ⟨inner, outer, rfl, rfl, behind⟩ | ⟨plain, other⟩
  case inl =>
    have enough := Nat.succ_le_succ behind.length_le
    apply (takeBraced?_carried (closes_skip behind) enough).bind_beside
    intro chars rest beyond closes
    apply Carried.bind_same
    intro code
    apply Carried.bind_same
    intro char
    exact .some ⟨rfl, closes_skip closes⟩
  case inr =>
    -- Neither text starts with a brace, so that both readings come to their last case.
    simp only
    apply (takeSkipping?_carried skipped).bind_beside
    intro chars rest beyond closes
    apply Carried.bind_same
    intro code
    apply Carried.bind_same
    intro char
    exact .ite (fun _ => .some ⟨rfl, closes⟩) fun _ => .none

theorem readProperty?_carried {negated : Bool} (closes : Closes text longer) :
    Carried (Beside Closes) (readProperty? flags negated text)
      (readProperty? flags negated longer) := by
  have finish (set : CharClass) (without : Bool) {rest beyond : List Char}
      (closes : Closes rest beyond) : Carried (Beside Closes)
        (if flags.unicode then
          (finishClass? flags (negated != without) set).bind fun set => some (set, rest) else none)
        (if flags.unicode then
          (finishClass? flags (negated != without) set).bind fun set => some (set, beyond)
          else none) :=
    .ite (fun _ => .bind_same _ fun _ => .some ⟨rfl, closes⟩) fun _ => .none
  unfold readProperty?
  have skipped : Closes (flags.skip text) (flags.skip longer) := closes_skip closes
  generalize flags.skip text = inner, flags.skip longer = outer at skipped
  rcases skipped.starts '\x7b' (by decide) with ⟨inner, outer, rfl, rfl, behind⟩ | ⟨plain, other⟩
  case inl =>
    have enough := Nat.succ_le_succ behind.length_le
    apply (takeBraced?_carried (closes_skip behind) enough).bind_beside
    intro name rest beyond closes
    apply Carried.bind_same
    rintro ⟨set, without⟩
    exact finish set without closes
  case inr =>
    rcases skipped.starts '\\' (by decide) with ⟨inner, outer, rfl, rfl, -⟩ | ⟨noEscape, others⟩
    case inl => exact .none
    case inr =>
      cases inner with
      | nil => exact .none
      | cons letter rest =>
        rcases skipped.exists_cons with ⟨beyond, rfl, behind⟩
        have isLetter : letter ≠ '\x7b' := fun isBrace => plain rest (isBrace ▸ rfl)
        have noEscape : letter ≠ '\\' := fun isEscape => noEscape rest (isEscape ▸ rfl)
        simp only
        have named : Carried (Beside Closes)
            ((CharClass.named? [letter]).map fun set => ((set, false), flags.skip rest))
            ((CharClass.named? [letter]).map fun set => ((set, false), flags.skip beyond)) :=
          .map_same _ fun _ => ⟨rfl, closes_skip behind⟩
        apply named.bind_beside
        rintro ⟨set, without⟩ rest beyond closes
        exact finish set without closes

theorem readBoundary?_carried (closes : Closes text longer) :
    Carried (Beside Closes) (readBoundary? flags text) (readBoundary? flags longer) := by
  unfold readBoundary?
  rcases closes.starts '\x7b' (by decide) with ⟨inner, outer, rfl, rfl, behind⟩ | ⟨plain, other⟩
  case inl =>
    have skipped : Closes (flags.skip inner) (flags.skip outer) := closes_skip behind
    simp only
    generalize flags.skip inner = rest, flags.skip outer = beyond at skipped
    cases rest with
    | nil => exact .none
    | cons char following =>
      rcases skipped.exists_cons with ⟨further, rfl, behind⟩
      refine .ite (fun _ => ?_) fun _ => .some ⟨rfl, closes⟩
      have enough : following.length + 2 ≤ further.length + 2 :=
        Nat.add_le_add_right behind.length_le 2
      have taken : Carried (Beside Closes)
          (takeBraced? flags (following.length + 2) (char :: following))
          (takeBraced? flags (further.length + 2) (char :: further)) :=
        takeBraced?_carried skipped enough
      generalize takeBraced? flags (following.length + 2) (char :: following) = name,
        takeBraced? flags (further.length + 2) (char :: further) = other at taken
      cases name with
      | none => exact .none
      | some name =>
        rcases taken name rfl with ⟨⟨_, left⟩, rfl, rfl, closes⟩
        exact .map_same _ fun condition => ⟨rfl, closes⟩
  case inr =>
    simp only
    exact .some ⟨rfl, closes⟩

theorem readEscape?_carried (closes : Closes text longer) :
    Carried (Beside Closes) (readEscape? flags text) (readEscape? flags longer) := by
  cases text with
  | nil => exact .none
  | cons letter rest =>
    rcases closes.exists_cons with ⟨beyond, rfl, behind⟩
    unfold readEscape?
    dsimp only
    split
    case h_1 | h_2 | h_3 =>
      exact (readHex?_carried behind).map_beside fun _ _ _ closes => ⟨rfl, closes⟩
    case h_4 | h_5 =>
      exact (readProperty?_carried behind).map_beside fun _ _ _ closes => ⟨rfl, closes⟩
    case h_14 => exact (readBoundary?_carried behind).map_beside fun _ _ _ closes => ⟨rfl, closes⟩
    case h_18 =>
      exact .ite (fun _ => .some ⟨rfl, behind⟩) fun _ => .map_same _ fun _ => ⟨rfl, behind⟩
    all_goals exact .some ⟨rfl, behind⟩

/-! ## Bracketed classes -/

theorem readItem?_carried (closes : Closes text longer) :
    Carried (Beside Closes) (readItem? flags text) (readItem? flags longer) := by
  cases text with
  | nil => exact .none
  | cons char rest =>
    rcases closes.exists_cons with ⟨beyond, rfl, behind⟩
    by_cases isEscape : char = '\\'
    case pos =>
      subst isEscape
      exact readEscape?_carried behind
    case neg =>
      rw [readItem?, readItem?]
      · exact .some ⟨rfl, behind⟩
      · exact isEscape
      · exact isEscape

def asciiClass? (negated : Bool) (text : List Char) : Option (CharClass × Bool × List Char) :=
  match text.dropWhile (· != ':') with
  | ':' :: ']' :: after =>
    (CharClass.asciiNamed? (text.takeWhile (· != ':'))).bind fun set => some (set, negated, after)
  | _ => none

theorem asciiClass?_of_ne {negated : Bool}
    (plain : ∀ after, text.dropWhile (· != ':') ≠ ':' :: ']' :: after) :
    asciiClass? negated text = none := by
  unfold asciiClass?
  split
  case h_1 isName => exact absurd isName (plain _)
  case h_2 => rfl

theorem asciiClass?_rel {negated : Bool} (closes : Closes text longer) :
    Option.Rel (Beside (Beside Closes)) (asciiClass? negated text)
      (asciiClass? negated longer) := by
  have dropped := closes.dropWhile (· != ':')
  by_cases isName : ∃ after, text.dropWhile (· != ':') = ':' :: ']' :: after
  case pos =>
    rcases isName with ⟨after, isName⟩
    have taken := closes.takeWhile isName
    rw [isName] at dropped
    rcases dropped.exists_cons with ⟨beyond, isOther, behind⟩
    rcases behind.exists_cons with ⟨beyond, rfl, onward⟩
    rw [asciiClass?, asciiClass?, taken, isName, isOther]
    cases CharClass.asciiNamed? (text.takeWhile (· != ':')) with
    | none => exact .none
    | some set => exact .some ⟨rfl, rfl, onward⟩
  case neg =>
    have plain : ∀ after, text.dropWhile (· != ':') ≠ ':' :: ']' :: after :=
      fun after same => isName ⟨after, same⟩
    rw [asciiClass?_of_ne plain,
      asciiClass?_of_ne (dropped.ne_cons_cons plain (by decide) (by decide))]
    exact .none

theorem readAsciiClass?_of_ne (plain : ∀ rest, text ≠ '[' :: ':' :: rest) :
    readAsciiClass? text = none := by
  unfold readAsciiClass?
  split
  case h_1 => exact absurd rfl (plain _)
  case h_2 => rfl

theorem readAsciiClass?_of_ne_caret (plain : ∀ inner, text ≠ '^' :: inner) :
    readAsciiClass? ('[' :: ':' :: text) = asciiClass? false text := by
  unfold readAsciiClass?
  simp only
  rfl

theorem readAsciiClass?_rel (closes : Closes text longer) :
    Option.Rel (Beside (Beside Closes)) (readAsciiClass? text) (readAsciiClass? longer) := by
  by_cases isOpen : ∃ rest, text = '[' :: ':' :: rest
  case pos =>
    rcases isOpen with ⟨rest, rfl⟩
    rcases closes.exists_cons with ⟨beyond, rfl, opened⟩
    rcases opened.exists_cons with ⟨beyond, rfl, behind⟩
    rcases behind.starts '^' (by decide) with ⟨inner, outer, rfl, rfl, onward⟩ | ⟨plain, other⟩
    case inl => exact asciiClass?_rel onward
    case inr =>
      rw [readAsciiClass?_of_ne_caret plain, readAsciiClass?_of_ne_caret other]
      exact asciiClass?_rel behind
  case neg =>
    have plain : ∀ rest, text ≠ '[' :: ':' :: rest := fun rest same => isOpen ⟨rest, same⟩
    rw [readAsciiClass?_of_ne plain,
      readAsciiClass?_of_ne (closes.ne_cons_cons plain (by decide) (by decide))]
    exact .none

theorem beyondHyphen?_eq_some {char : Char} (closes : Closes text longer) (other : char ≠ ')') :
    beyondHyphen? flags longer = some char ↔ beyondHyphen? flags text = some char := by
  unfold beyondHyphen?
  split
  case isTrue =>
    have dropped : Closes (text.dropWhile Text.isBlank) (longer.dropWhile Text.isBlank) :=
      closes.dropWhile _
    generalize text.dropWhile Text.isBlank = inner, longer.dropWhile Text.isBlank = outer at dropped
    rcases dropped.starts '#' (by decide) with ⟨rest, beyond, rfl, rfl, behind⟩ | ⟨plain, beyond⟩
    case inl => exact (behind.dropWhile _).head?_eq_some other
    case inr =>
      simp only
      exact dropped.head?_eq_some other
  case isFalse => exact closes.head?_eq_some other

theorem readRange?_carried (closes : Closes text longer) :
    Carried (Beside Closes) (readRange? flags text) (readRange? flags longer) := by
  unfold readRange?
  apply (readItem?_carried closes).bind_beside
  intro first rest beyond closes
  have skipped : Closes (flags.skip rest) (flags.skip beyond) := closes_skip closes
  dsimp only
  generalize flags.skip rest = inner, flags.skip beyond = outer at skipped
  have alone : Carried (Beside Closes)
      ((itemClass? flags first).bind fun set => some (set, inner))
      ((itemClass? flags first).bind fun set => some (set, outer)) :=
    .bind_same _ fun set => .some ⟨rfl, skipped⟩
  rcases skipped.starts '-' (by decide) with ⟨after, further, rfl, rfl, behind⟩ | ⟨plain, beyond⟩
  case inl =>
    simp only [beyondHyphen?_eq_some behind (show ']' ≠ ')' by decide),
      beyondHyphen?_eq_some behind (show '-' ≠ ')' by decide)]
    refine .ite (fun _ => alone) fun _ => ?_
    apply (readItem?_carried (closes_skip behind)).bind_beside
    intro last rest beyond closes
    dsimp only
    split
    case h_1 => exact .ite (fun _ => .some ⟨rfl, closes⟩) fun _ => .none
    case h_2 => exact .none
  case inr =>
    cases inner with
    | nil => exact .none
    | cons char rest =>
      rcases skipped.exists_cons with ⟨beyond, rfl, -⟩
      simp only
      exact alone

theorem takeHyphens_of_ne {fuel : Nat} {bracket : OpenClass}
    (plain : ∀ rest, text ≠ '-' :: rest) :
    takeHyphens flags fuel bracket text = (bracket, text) := by
  cases fuel with
  | zero => rfl
  | succ fuel =>
    rw [takeHyphens]
    exact plain

theorem takeHyphens_beside {fuel more : Nat} {bracket : OpenClass} (closes : Closes text longer)
    (enough : text.length ≤ fuel) (enoughMore : longer.length ≤ more) :
    Beside Closes (takeHyphens flags fuel bracket text)
      (takeHyphens flags more bracket longer) := by
  induction fuel generalizing text longer bracket more with
  | zero =>
    cases List.length_eq_zero_iff.mp (Nat.le_zero.mp enough)
    rcases closes.starts '-' (by decide) with ⟨_, _, isNil, -, -⟩ | ⟨plain, beyond⟩
    case inl => cases isNil
    case inr =>
      rw [takeHyphens_of_ne plain, takeHyphens_of_ne beyond]
      exact ⟨rfl, closes⟩
  | succ fuel induction =>
    rcases closes.starts '-' (by decide) with ⟨rest, beyond, rfl, rfl, behind⟩ | ⟨plain, beyond⟩
    case inl =>
      rw [List.length_cons] at enough enoughMore
      have short := length_skip_le flags rest
      have shortBeyond := length_skip_le flags beyond
      cases more with
      | zero => exact absurd enoughMore (Nat.not_succ_le_zero _)
      | succ more => exact induction (closes_skip behind) (by omega) (by omega)
    case inr =>
      rw [takeHyphens_of_ne plain, takeHyphens_of_ne beyond]
      exact ⟨rfl, closes⟩

def takeBracket (flags : PatternFlags) (negated : Bool) (opened : OpenClass × List Char) :
    Bool × OpenClass × List Char :=
  match opened.2 with
  | ']' :: after =>
    if opened.1.count = 0 then (negated, opened.1.add (.single ']') 0, flags.skip after)
    else (negated, opened)
  | _ => (negated, opened)

theorem takeBracket_beside {negated : Bool} {first second : OpenClass × List Char}
    (beside : Beside Closes first second) :
    Beside (Beside Closes) (takeBracket flags negated first)
      (takeBracket flags negated second) := by
  rcases first with ⟨bracket, rest⟩
  rcases second with ⟨_, beyond⟩
  rcases beside with ⟨⟨⟩, closes⟩
  unfold takeBracket
  rcases closes.starts ']' (by decide) with ⟨rest, beyond, rfl, rfl, behind⟩ | ⟨plain, other⟩
  case inl =>
    simp only
    split
    · exact ⟨rfl, rfl, closes_skip behind⟩
    · exact ⟨rfl, rfl, closes⟩
  case inr =>
    simp only
    exact ⟨rfl, rfl, closes⟩

theorem openClass_caret {rest : List Char} (isCaret : flags.skip text = '^' :: rest) :
    openClass flags text = takeBracket flags true
      (takeHyphens flags (flags.skip rest).length {} (flags.skip rest)) := by
  unfold openClass
  rw [isCaret]
  rfl

theorem openClass_of_ne (plain : ∀ rest, flags.skip text ≠ '^' :: rest) :
    openClass flags text = takeBracket flags false
      (takeHyphens flags (flags.skip text).length {} (flags.skip text)) := by
  unfold openClass
  simp only
  rfl

theorem openClass_beside (closes : Closes text longer) :
    Beside (Beside Closes) (openClass flags text) (openClass flags longer) := by
  have hyphens {inner outer : List Char} (closes : Closes inner outer) :
      Beside Closes (takeHyphens flags inner.length {} inner)
        (takeHyphens flags outer.length {} outer) :=
    takeHyphens_beside closes (Nat.le_refl _) (Nat.le_refl _)
  have skipped : Closes (flags.skip text) (flags.skip longer) := closes_skip closes
  rcases skipped.starts '^' (by decide) with ⟨rest, beyond, isCaret, isOther, behind⟩ | ⟨plain, other⟩
  case inl =>
    rw [openClass_caret isCaret, openClass_caret isOther]
    exact takeBracket_beside (hyphens (closes_skip behind))
  case inr =>
    rw [openClass_of_ne plain, openClass_of_ne other]
    exact takeBracket_beside (hyphens skipped)

theorem readClass?_carried {fuel more : Nat} {negated : Bool} {bracket : OpenClass}
    (closes : Closes text longer) (enough : fuel ≤ more) :
    Carried (Beside Closes) (readClass? flags fuel negated bracket text)
      (readClass? flags more negated bracket longer) := by
  induction fuel generalizing text longer more negated bracket with
  | zero => exact .none
  | succ fuel induction =>
    rcases Nat.exists_eq_succ_of_ne_zero (Nat.ne_zero_of_lt enough) with ⟨more, rfl⟩
    replace enough := Nat.le_of_succ_le_succ enough
    unfold readClass?
    have skipped : Closes (flags.skip text) (flags.skip longer) := closes_skip closes
    generalize flags.skip text = inner, flags.skip longer = outer at skipped
    have range : Carried (Beside Closes)
        ((readRange? flags inner).bind fun read =>
          readClass? flags fuel negated (bracket.add read.1 0) read.2)
        ((readRange? flags outer).bind fun read =>
          readClass? flags more negated (bracket.add read.1 0) read.2) :=
      (readRange?_carried skipped).bind_beside fun _ _ _ closes => induction closes enough
    split
    case h_1 => exact .none
    case h_2 rest =>
      rcases skipped.exists_cons with ⟨beyond, rfl, behind⟩
      exact .bind_same _ fun set => .some ⟨rfl, behind⟩
    case h_3 | h_4 | h_5 =>
      rcases skipped.exists_cons with ⟨beyond, rfl, behind⟩
      rcases behind.exists_cons with ⟨beyond, rfl, onward⟩
      exact induction onward enough
    case h_6 rest =>
      rcases skipped.exists_cons with ⟨beyond, rfl, behind⟩
      simp only
      have named := readAsciiClass?_rel skipped
      generalize readAsciiClass? ('[' :: rest) = first, readAsciiClass? ('[' :: beyond) = second
        at named
      cases named with
      | none =>
        have opened : Beside (Beside Closes) (openClass flags rest) (openClass flags beyond) :=
          openClass_beside behind
        generalize openClass flags rest = first, openClass flags beyond = second at opened
        rcases first with ⟨innerNegated, inner, left⟩
        rcases second with ⟨_, _, further⟩
        rcases opened with ⟨rfl, rfl, closes⟩
        apply (induction closes enough).bind_beside
        exact fun _ _ _ closes => induction closes enough
      | @some first second same =>
        rcases first with ⟨set, without, left⟩
        rcases second with ⟨_, _, further⟩
        rcases same with ⟨rfl, rfl, closes⟩
        exact .bind_same _ fun _ => induction closes enough
    case h_7 isClosed noBracket noAnd noMinus noTilde noOpen =>
      cases inner with
      | nil => exact absurd rfl isClosed
      | cons char rest =>
        -- A closing parenthesis makes nothing of what opens an operation or a class.
        have noBracket := skipped.ne_cons noBracket (by decide)
        have noAnd := skipped.ne_cons_cons noAnd (by decide) (by decide)
        have noMinus := skipped.ne_cons_cons noMinus (by decide) (by decide)
        have noTilde := skipped.ne_cons_cons noTilde (by decide) (by decide)
        have noOpen := skipped.ne_cons noOpen (by decide)
        rcases skipped.exists_cons with ⟨beyond, rfl, behind⟩
        have isCons : char :: beyond ≠ [] := List.cons_ne_nil _ _
        simp only
        exact range

end PatternReader

end Proviso
