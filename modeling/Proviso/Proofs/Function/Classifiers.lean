import Proviso.Function.Builtin.Classifiers
import Proviso.Proofs.Number.Numerals
import Proviso.Proofs.Pattern.Language

/-!
The functions that tell digits and numbers. Their patterns ask for decimal digits of any script, so
they accept numbers that are written in such digits and not only those that are read as doubles. On
texts whose digits are all ASCII digits the two are the same.
-/

namespace Proviso

/-- That a text has no digits of other scripts. -/
def Text.DigitsAreAscii (text : List Char) : Prop :=
  ∀ char ∈ text, isDigit char = true → char.isDigit = true

theorem Text.isDigit_of_ascii {char : Char} (ascii : char.toNat < 0x80)
    (digit : isDigit char = true) : char.isDigit = true := by
  rw [isDigit, CodeRanges.contains, digitRanges, CodeRanges.holds, CodeRanges.holds] at digit
  rw [Char.isDigit_iff_toNat]
  split at digit
  case isTrue => cases digit
  case isFalse low =>
    split at digit
    case isTrue high => exact ⟨Nat.le_of_not_lt low, high⟩
    case isFalse => rw [if_pos (by omega)] at digit; cases digit

theorem Text.digitsAreAscii_of_isAscii {text : List Char} (ascii : Number.IsAscii text) :
    DigitsAreAscii text :=
  fun char member => isDigit_of_ascii (ascii char member)

namespace Builtin

open Number Pattern

/-! ## The patterns of digits and numbers -/

namespace NumberPattern

def digits (least : Nat) : Pattern :=
  .repeated (.oneOf .digit) least none true

def optional (body : Pattern) : Pattern :=
  .repeated body 0 (some 1) true

def either (first second : Char) : Pattern :=
  .oneOf (.ranges [(first.toNat, first.toNat), (second.toNat, second.toNat)])

def sign : Pattern :=
  optional (either '+' '-')

def point : Pattern :=
  .oneOf (.single '.')

def mantissa : Pattern :=
  .choice (.ofParts [digits 1, optional point, digits 0]) (.ofParts [point, digits 1])

def exponent : Pattern :=
  optional (.ofParts [either 'E' 'e', sign, digits 1])

section

variable {word : List Char}

theorem mem_digits_zero : word ∈ (digits 0).language ↔ ∀ char ∈ word, Text.isDigit char = true :=
  mem_language_repeated_oneOf.trans (and_iff_right (Nat.zero_le _))

theorem mem_digits_one : word ∈ (digits 1).language ↔ DigitChain Text.isDigit word := by
  rw [digits, mem_language_repeated_oneOf, Nat.one_le_iff_ne_zero, ne_eq,
    List.length_eq_zero_iff]
  exact ⟨fun both => ⟨both.1, both.2⟩, fun chain => ⟨chain.nonempty, chain.areDigits⟩⟩

theorem mem_either {first second : Char} (ordered : first.toNat < second.toNat) :
    word ∈ (either first second).language ↔ word = [first] ∨ word = [second] := by
  have holds (char : Char) : CharClass.contains (.ranges [(first.toNat, first.toNat),
      (second.toNat, second.toNat)]) char = true ↔ char = first ∨ char = second := by
    have ascending : Text.CodeRanges.Ascending [(first.toNat, first.toNat),
        (second.toNat, second.toNat)] := ⟨Nat.le_refl _, ordered, Nat.le_refl _⟩
    rw [CharClass.contains, CharClass.holds, Text.CodeRanges.holds_iff ascending,
      ← Char.toNat_inj, ← Char.toNat_inj]
    simp only [List.mem_cons, List.not_mem_nil, or_false, exists_eq_or_imp, exists_eq_left]
    omega
  constructor
  · intro isWord
    obtain ⟨char, taken, isWord⟩ := isWord
    subst isWord
    obtain isFirst | isSecond := (holds char).mp taken
    · exact .inl (congrArg ([·]) isFirst)
    · exact .inr (congrArg ([·]) isSecond)
  · intro isWord
    obtain isFirst | isSecond := isWord
    · exact ⟨first, (holds first).mpr (.inl rfl), isFirst.symm⟩
    · exact ⟨second, (holds second).mpr (.inr rfl), isSecond.symm⟩

theorem mem_point : word ∈ point.language ↔ word = ['.'] := by
  constructor
  · intro ⟨char, taken, isWord⟩
    rw [CharClass.contains_single, beq_iff_eq] at taken
    rw [← isWord, taken]
  · intro isWord
    exact ⟨'.', by simp, isWord.symm⟩

theorem mem_sign : word ∈ sign.language ↔ Sign word := by
  rw [sign, optional, mem_language_optional, mem_either (by decide)]
  constructor
  · intro isSign
    obtain isEmpty | isPlus | isMinus := isSign
    · exact isEmpty ▸ .absent
    · exact isPlus ▸ .plus
    · exact isMinus ▸ .minus
  · intro isSign
    cases isSign with
    | absent => exact .inl rfl
    | plus => exact .inr (.inl rfl)
    | minus => exact .inr (.inr rfl)

theorem mem_mantissa_of_digits {front middle behind : List Char}
    (chain : DigitChain Text.isDigit front) (isMiddle : middle = [] ∨ middle = ['.'])
    (areDigits : ∀ char ∈ behind, Text.isDigit char = true) :
    front ++ (middle ++ behind) ∈ mantissa.language := by
  have inMiddle : middle ∈ (optional point).language :=
    mem_language_optional.mpr (isMiddle.imp_right mem_point.mpr)
  have others := Language.append_mem_mul inMiddle (mem_digits_zero.mpr areDigits)
  exact .inl (Language.append_mem_mul (mem_digits_one.mpr chain) others)

theorem mem_mantissa_of_point {behind : List Char} (chain : DigitChain Text.isDigit behind) :
    '.' :: behind ∈ mantissa.language := by
  have inFront : ['.'] ∈ point.language := mem_point.mpr rfl
  exact .inr (Language.append_mem_mul inFront (mem_digits_one.mpr chain))

theorem mem_mantissa : word ∈ mantissa.language ↔ Mantissa Text.isDigit word := by
  constructor
  · intro isWord
    cases isWord with
    | inl digitsFirst =>
      obtain ⟨front, isFront, others, isOthers, joined⟩ := Language.mem_mul.mp digitsFirst
      obtain ⟨middle, isMiddle, behind, isBehind, joinedOthers⟩ := Language.mem_mul.mp isOthers
      subst joinedOthers joined
      have chain := mem_digits_one.mp isFront
      have areDigits := List.forall_mem_append.mpr ⟨chain.areDigits, mem_digits_zero.mp isBehind⟩
      have isChain : DigitChain Text.isDigit (front ++ behind) :=
        ⟨List.append_ne_nil_of_left_ne_nil chain.nonempty _, areDigits⟩
      obtain none | isPoint := mem_language_optional.mp isMiddle
      · subst none
        exact .whole isChain
      · rw [mem_point.mp isPoint]
        exact .pointed isChain
    | inr pointFirst =>
      obtain ⟨first, isFirst, behind, isBehind, joined⟩ := Language.mem_mul.mp pointFirst
      have isChain : DigitChain Text.isDigit ([] ++ behind) := mem_digits_one.mp isBehind
      rw [← joined, mem_point.mp isFirst]
      exact .pointed isChain
  · intro isMantissa
    cases isMantissa with
    | whole chain =>
      have isWord := mem_mantissa_of_digits chain (.inl rfl) (List.forall_mem_nil _)
      rwa [List.append_nil, List.append_nil] at isWord
    | @pointed front behind chain =>
      obtain ⟨inFront, inBehind⟩ := List.forall_mem_append.mp chain.areDigits
      cases front with
      | nil => exact mem_mantissa_of_point chain
      | cons char front =>
        exact mem_mantissa_of_digits ⟨List.cons_ne_nil _ _, inFront⟩ (.inr rfl) inBehind

theorem mem_exponent : word ∈ exponent.language ↔ Exponent Text.isDigit word := by
  rw [exponent, optional, mem_language_optional]
  constructor
  · intro isWord
    obtain isEmpty | isPresent := isWord
    · exact isEmpty ▸ .absent
    · obtain ⟨mark, isMark, others, isOthers, joined⟩ := Language.mem_mul.mp isPresent
      obtain ⟨signed, isSign, behind, isBehind, joinedOthers⟩ := Language.mem_mul.mp isOthers
      have isSign := mem_sign.mp isSign
      have chain := mem_digits_one.mp isBehind
      subst joinedOthers joined
      obtain isUpper | isLower := (mem_either (by decide)).mp isMark
      · rw [isUpper, List.singleton_append]
        exact .present (.inr rfl) isSign chain
      · rw [isLower, List.singleton_append]
        exact .present (.inl rfl) isSign chain
  · intro isExponent
    cases isExponent with
    | absent => exact .inl rfl
    | @present mark signed behind isMark isSign chain =>
      have inMark : [mark] ∈ (either 'E' 'e').language := by
        rw [mem_either (by decide), List.singleton_inj, List.singleton_inj]
        exact isMark.symm
      have others := Language.append_mem_mul (mem_sign.mpr isSign) (mem_digits_one.mpr chain)
      exact .inr (Language.append_mem_mul inMark others)

end

end NumberPattern

theorem digitChain_eq : digitChain = .ofPattern (whole [NumberPattern.digits 1]) := by
  decide +kernel

theorem isMatch_digitChain_iff {text : List Char} :
    digitChain.isMatch text = true ↔ DigitChain Text.isDigit text := by
  rw [digitChain_eq, isMatch_whole_iff (by decide), List.map_singleton, List.prod_singleton]
  exact NumberPattern.mem_digits_one

theorem decimalNumber_eq : decimalNumber =
    .ofPattern (whole [NumberPattern.sign, NumberPattern.mantissa, NumberPattern.exponent]) := by
  decide +kernel

theorem isMatch_decimalNumber_iff {text : List Char} :
    decimalNumber.isMatch text = true ↔ Numeral Text.isDigit text := by
  rw [decimalNumber_eq, isMatch_whole_iff (by decide)]
  simp only [List.map_cons, List.map_nil, List.prod_cons, List.prod_nil, mul_one,
    Language.mem_mul, NumberPattern.mem_sign, NumberPattern.mem_mantissa,
    NumberPattern.mem_exponent]
  constructor
  · intro ⟨signed, isSign, _, ⟨front, isMantissa, behind, isExponent, joined⟩, joinedAll⟩
    subst joined joinedAll
    exact .parts isSign isMantissa isExponent
  · intro numeral
    obtain ⟨isSign, isMantissa, isExponent⟩ := numeral
    exact ⟨_, isSign, _, ⟨_, isMantissa, _, isExponent, rfl⟩, rfl⟩

/-! ## Answers -/

def Decides (function : Function) (moment : Calendar.Moment) (text : String) (holds : Prop) :
    Prop :=
  ∃ answer, function.invoke moment [.string text] = .ok (.bool answer) ∧ (answer = true ↔ holds)

theorem decides_classifier {name : String} {automaton : Automaton} {text : String} {holds : Prop}
    (isMatch : automaton.isMatch text.toList = true ↔ holds) (moment : Calendar.Moment) :
    Decides (classifier name automaton) moment text holds :=
  ⟨_, rfl, isMatch⟩

theorem invoke_classifier {name : String} {automaton : Automaton} {text : String}
    (isMatch : automaton.isMatch text.toList = true) (moment : Calendar.Moment) :
    (classifier name automaton).invoke moment [.string text] = .ok (.bool true) :=
  congrArg (fun answer => Except.ok (Value.bool answer)) isMatch

/-- The answers for one text. Digits are those of all scripts, unless the text has ASCII digits
only; and only then a number is read as a double. -/
structure TellsNumbers (moment : Calendar.Moment) (text : String) : Prop where
  chain : Decides isDigitChain moment text (DigitChain Text.isDigit text.toList)
  number : Decides isNumber moment text (Numeral Text.isDigit text.toList)
  asciiChain (ascii : Text.DigitsAreAscii text.toList) :
    Decides isDigitChain moment text (DigitChain Char.isDigit text.toList)
  readable (accepted : isNumber.invoke moment [.string text] = .ok (.bool true)) :
    (readFloat? text.toList).isSome = true ↔ Text.DigitsAreAscii text.toList

/-- A numeral is read as a double exactly if its digits are ASCII digits. -/
theorem isSome_readFloat?_iff_digitsAreAscii {text : List Char}
    (numeral : Numeral Text.isDigit text) :
    (readFloat? text).isSome = true ↔ Text.DigitsAreAscii text := by
  constructor
  · intro read
    exact Text.digitsAreAscii_of_isAscii (isAscii_of_readFloat? read)
  · intro ascii
    exact isSome_readFloat?_iff.mpr (.inl (numeral.mono ascii))

theorem digitChain_congr {text : List Char} (ascii : Text.DigitsAreAscii text) :
    DigitChain Text.isDigit text ↔ DigitChain Char.isDigit text := by
  constructor
  · exact fun chain => chain.mono ascii
  · exact fun chain => chain.mono fun _ _ => Text.isDigit_of_asciiDigit

theorem tellsNumbers (moment : Calendar.Moment) (text : String) : TellsNumbers moment text := by
  have number : Decides isNumber moment text (Numeral Text.isDigit text.toList) :=
    decides_classifier isMatch_decimalNumber_iff moment
  constructor
  case chain => exact decides_classifier isMatch_digitChain_iff moment
  case number => exact number
  case asciiChain =>
    intro ascii
    exact decides_classifier (isMatch_digitChain_iff.trans (digitChain_congr ascii)) moment
  case readable =>
    intro accepted
    obtain ⟨answer, answered, isNumeral⟩ := number
    have isTrue : answer = true := by
      rw [accepted] at answered
      cases answered
      rfl
    exact isSome_readFloat?_iff_digitsAreAscii (isNumeral.mp isTrue)

theorem tellsNumbers_literal :
    TellsNumbers (.midnight ⟨2024, 1, 1, by decide⟩) "-12.5e3" ∧
      Text.DigitsAreAscii "-12.5e3".toList ∧
      isNumber.invoke (.midnight ⟨2024, 1, 1, by decide⟩) [.string "-12.5e3"] =
        .ok (.bool true) ∧
      (readFloat? "-12.5e3".toList).isSome = true := by
  have lawful := tellsNumbers (.midnight ⟨2024, 1, 1, by decide⟩) "-12.5e3"
  have ascii : Text.DigitsAreAscii "-12.5e3".toList :=
    Text.digitsAreAscii_of_isAscii (isAscii_of_all (by decide))
  have accepted : isNumber.invoke (.midnight ⟨2024, 1, 1, by decide⟩) [.string "-12.5e3"] =
      .ok (.bool true) :=
    invoke_classifier (by decide +kernel) _
  exact ⟨lawful, ascii, accepted, (lawful.readable accepted).mpr ascii⟩

/-- The digit three of the Arabic script is a number by both functions, but no ASCII digit, and
nothing that is read as a double. -/
theorem accepts_arabicThree :
    isDigitChain.invoke (.midnight ⟨2024, 1, 1, by decide⟩) [.string "٣"] = .ok (.bool true) ∧
      isNumber.invoke (.midnight ⟨2024, 1, 1, by decide⟩) [.string "٣"] = .ok (.bool true) ∧
      ¬ DigitChain Char.isDigit "٣".toList ∧ readFloat? "٣".toList = none := by
  have chain : DigitChain Text.isDigit "٣".toList :=
    ⟨by decide, List.all_eq_true.mp (by decide)⟩
  have numeral : Numeral Text.isDigit "٣".toList := .parts .absent (.whole chain) .absent
  refine ⟨invoke_classifier (isMatch_digitChain_iff.mpr chain) _,
    invoke_classifier (isMatch_decimalNumber_iff.mpr numeral) _, ?_, rfl⟩
  intro ascii
  exact absurd (ascii.areDigits '٣' (by decide)) (by decide)

end Builtin

end Proviso
