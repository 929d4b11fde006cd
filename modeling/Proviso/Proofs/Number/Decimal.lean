import Mathlib.Data.Int.Order.Basic
import Proviso.Number.Decimal

/-!
Decimal digits read back. What is written for a whole number, padded or not, are digits alone, and
reading them gives the number; with its sign a word of 64 bits is read back as well. Nothing else
than digits, with a sign in front, is read as a number.
-/

namespace Proviso.Number

/-! ## Digits -/

theorem digitValue?_of_isDigit {char : Char} (digit : char.isDigit = true) :
    digitValue? char = some (char.toNat - '0'.toNat) := by
  have bounds : '0' ≤ char ∧ char ≤ '9' := by
    simpa [Char.isDigit, Char.le_def] using digit
  rw [digitValue?, if_pos bounds]

theorem isAsciiDigit_of_isDigit {char : Char} (digit : char.isDigit = true) :
    isAsciiDigit char = true := by
  rw [isAsciiDigit, digitValue?_of_isDigit digit]
  rfl

theorem readDigitsAfter_eq {digits : List Char} (areDigits : ∀ char ∈ digits, char.isDigit = true)
    (value : Nat) : readDigitsAfter value digits = some (Nat.ofDigitChars 10 digits value) := by
  induction digits generalizing value with
  | nil => rfl
  | cons char rest induction =>
    rw [List.forall_mem_cons] at areDigits
    rw [readDigitsAfter, digitValue?_of_isDigit areDigits.1, Nat.ofDigitChars_cons, Nat.mul_comm 10]
    exact induction areDigits.2 _

theorem digitsValue_eq (digits : List Char) :
    digitsValue digits = Nat.ofDigitChars 10 digits 0 := by
  rw [digitsValue, Nat.ofDigitChars_eq_foldl]
  simp only [Nat.mul_comm]

theorem readNat?_eq {digits : List Char} (nonempty : digits ≠ [])
    (areDigits : ∀ char ∈ digits, char.isDigit = true) :
    readNat? digits = some (Nat.ofDigitChars 10 digits 0) := by
  cases digits with
  | nil => exact absurd rfl nonempty
  | cons char rest => exact readDigitsAfter_eq areDigits 0

theorem isDigit_of_digitValue? {char : Char} {digit : Nat} (found : digitValue? char = some digit) :
    char.isDigit = true := by
  rw [digitValue?] at found
  split at found
  case isTrue bounds => simpa [Char.isDigit, Char.le_def] using bounds
  case isFalse => cases found

theorem isDigit_of_readDigitsAfter {text : List Char} {value number : Nat}
    (read : readDigitsAfter value text = some number) : ∀ char ∈ text, char.isDigit = true := by
  induction text generalizing value with
  | nil => nofun
  | cons first rest induction =>
    rw [readDigitsAfter] at read
    split at read
    case h_1 digit found =>
      exact List.forall_mem_cons.mpr ⟨isDigit_of_digitValue? found, induction read⟩
    case h_2 => cases read

/-! ## Padding -/

theorem isDigit_of_mem_decimal {number : Nat} {char : Char} (member : char ∈ decimal number) :
    char.isDigit = true :=
  Nat.isDigit_of_mem_toDigits (by decide) (by decide) member

theorem decimal_ne_nil (number : Nat) : decimal number ≠ [] :=
  Nat.toDigits_ne_nil

theorem isDigit_of_mem_paddedDecimal {width number : Nat} {char : Char}
    (member : char ∈ paddedDecimal width number) : char.isDigit = true := by
  rcases List.mem_append.mp member with padding | digit
  · rw [List.eq_of_mem_replicate padding]
    rfl
  · exact isDigit_of_mem_decimal digit

theorem paddedDecimal_ne_nil (width number : Nat) : paddedDecimal width number ≠ [] :=
  List.append_ne_nil_of_right_ne_nil _ (decimal_ne_nil number)

theorem length_paddedDecimal {width number : Nat} (positive : 0 < width)
    (small : number < 10 ^ width) : (paddedDecimal width number).length = width := by
  have short : (decimal number).length ≤ width :=
    (Nat.length_toDigits_le_iff (by decide) positive).mpr small
  rw [paddedDecimal, List.length_append, List.length_replicate]
  omega

@[simp] theorem ofDigitChars_paddedDecimal (width number : Nat) :
    Nat.ofDigitChars 10 (paddedDecimal width number) 0 = number := by
  rw [paddedDecimal, Nat.ofDigitChars_append, Nat.ofDigitChars_replicate_zero, Nat.mul_zero,
    decimal, Nat.ofDigitChars_ten_toDigits]

theorem readNat?_paddedDecimal (width number : Nat) :
    readNat? (paddedDecimal width number) = some number := by
  rw [readNat?_eq (paddedDecimal_ne_nil width number) fun _ => isDigit_of_mem_paddedDecimal,
    ofDigitChars_paddedDecimal]

theorem decimal_eq_padded (number : Nat) : decimal number = paddedDecimal 0 number := by
  rw [paddedDecimal, Nat.zero_sub]
  rfl

/-! ## Signs and words -/

theorem readInt?_of_digits {digits : List Char} (areDigits : ∀ char ∈ digits, char.isDigit = true) :
    readInt? digits = (readNat? digits).map fun number => (number : Int) := by
  have noSign (sign : Char) (isSign : sign.isDigit = false) (rest : List Char) :
      digits ≠ sign :: rest := by
    rintro rfl
    rw [areDigits sign (List.mem_cons_self ..)] at isSign
    cases isSign
  unfold readInt?
  split
  case h_1 rest => exact absurd rfl (noSign '-' rfl rest)
  case h_2 rest => exact absurd rfl (noSign '+' rfl rest)
  case h_3 => rfl

theorem readInt?_paddedDecimal (width number : Nat) :
    readInt? (paddedDecimal width number) = some (number : Int) := by
  rw [readInt?_of_digits fun _ => isDigit_of_mem_paddedDecimal, readNat?_paddedDecimal]
  rfl

theorem readInt?_signedDecimal (number : Int) : readInt? (signedDecimal number) = some number := by
  rw [signedDecimal, decimal_eq_padded]
  split
  case isTrue negative =>
    rw [readInt?, readNat?_paddedDecimal]
    have opposite : -(number.natAbs : Int) = number := by omega
    exact congrArg some opposite
  case isFalse =>
    rw [readInt?_paddedDecimal, Option.some.injEq]
    omega

theorem int64?_eq {number : Int} (lower : -2 ^ 63 ≤ number) (upper : number < 2 ^ 63) :
    ∃ word, int64? number = some word ∧ word.toInt = number := by
  have fits : int64? number = some (Int64.ofInt number) := by
    rw [int64?, if_pos ⟨lower, upper⟩]
  exact ⟨_, fits, toInt_int64? fits⟩

@[simp] theorem int64?_toInt (word : Int64) : int64? word.toInt = some word := by
  rcases int64?_eq word.le_toInt word.toInt_lt with ⟨other, fits, same⟩
  rw [fits, Int64.toInt_inj.mp same]

theorem readInt64?_signedDecimal (word : Int64) :
    readInt64? (signedDecimal word.toInt) = some word := by
  rw [readInt64?, readInt?_signedDecimal, Option.bind_some, int64?_toInt]

theorem readInt64?_paddedDecimal (width : Nat) {number : Nat} (small : number < 2 ^ 63) :
    ∃ word, readInt64? (paddedDecimal width number) = some word ∧ word.toInt = number := by
  rw [readInt64?, readInt?_paddedDecimal, Option.bind_some]
  exact int64?_eq (by omega) (by omega)

/-! ## Numerals -/

inductive Unsigned : List Char → Int → Prop
  | digits {text : List Char} (nonempty : text ≠ [])
      (areDigits : ∀ char ∈ text, char.isDigit = true) :
      Unsigned text (Nat.ofDigitChars 10 text 0 : Nat)

/-- That a text is a number written in decimal digits, of which a sign may stand in front. -/
inductive Signed : List Char → Int → Prop
  | plain {text : List Char} {number : Int} (digits : Unsigned text number) : Signed text number
  | plus {text : List Char} {number : Int} (digits : Unsigned text number) :
      Signed ('+' :: text) number
  | minus {text : List Char} {number : Int} (digits : Unsigned text number) :
      Signed ('-' :: text) (-number)

theorem readNat?_eq_some_iff {text : List Char} {number : Nat} :
    readNat? text = some number ↔ Unsigned text number := by
  constructor
  · intro read
    cases text with
    | nil => cases read
    | cons first rest =>
      have areDigits := isDigit_of_readDigitsAfter read
      have same := (readNat?_eq (List.cons_ne_nil first rest) areDigits).symm.trans read
      exact Option.some.inj same ▸ .digits (List.cons_ne_nil first rest) areDigits
  · generalize whole : (number : Int) = value
    rintro ⟨nonempty, areDigits⟩
    rw [readNat?_eq nonempty areDigits, Int.ofNat_inj.mp whole]

theorem Unsigned.notMem {text : List Char} {number : Int} (numeral : Unsigned text number)
    {char : Char} (noDigit : char.isDigit = false) : char ∉ text := by
  rcases numeral with ⟨_, areDigits⟩
  intro member
  rw [areDigits char member] at noDigit
  cases noDigit

theorem Unsigned.exists_nat {text : List Char} {number : Int} (numeral : Unsigned text number) :
    ∃ value : Nat, number = value ∧ readNat? text = some value := by
  rcases numeral with ⟨nonempty, areDigits⟩
  exact ⟨_, rfl, readNat?_eq nonempty areDigits⟩

theorem Signed.notMem {text : List Char} {number : Int} (numeral : Signed text number)
    {char : Char} (noDigit : char.isDigit = false) (noSign : char ≠ '+' ∧ char ≠ '-') :
    char ∉ text := by
  rcases numeral with digits | digits | digits
  · exact digits.notMem noDigit
  · exact List.not_mem_cons_of_ne_of_not_mem noSign.1 (digits.notMem noDigit)
  · exact List.not_mem_cons_of_ne_of_not_mem noSign.2 (digits.notMem noDigit)

theorem Signed.unsigned {text : List Char} {number : Int} (numeral : Signed text number)
    (noPlus : '+' ∉ text) (noMinus : '-' ∉ text) : Unsigned text number := by
  rcases numeral with digits | digits | digits
  · exact digits
  · exact absurd (List.mem_cons_self ..) noPlus
  · exact absurd (List.mem_cons_self ..) noMinus

theorem readInt?_eq_some_iff {text : List Char} {number : Int} :
    readInt? text = some number ↔ Signed text number := by
  constructor
  · intro read
    unfold readInt? at read
    split at read
    all_goals
      rcases Option.map_eq_some_iff.mp read with ⟨_, readNat, rfl⟩
      rcases Option.bind_eq_some_iff.mp readNat with ⟨value, readNat, isValue⟩
      have digits := readNat?_eq_some_iff.mp readNat
      cases isValue
    · exact .minus digits
    · exact .plus digits
    · exact .plain digits
  · rintro (digits | digits | digits)
    all_goals rcases digits.exists_nat with ⟨value, rfl, readNat⟩
    · rcases digits with ⟨_, areDigits⟩
      rw [readInt?_of_digits areDigits, readNat]
      rfl
    · rw [readInt?, readNat]
      rfl
    · rw [readInt?, readNat]
      rfl

theorem readInt64?_eq_some_iff {text : List Char} {word : Int64} :
    readInt64? text = some word ↔ Signed text word.toInt := by
  rw [← readInt?_eq_some_iff, readInt64?, Option.bind_eq_some_iff]
  constructor
  · rintro ⟨number, read, fits⟩
    rw [read, toInt_int64? fits]
  · exact fun read => ⟨word.toInt, read, int64?_toInt word⟩

end Proviso.Number
