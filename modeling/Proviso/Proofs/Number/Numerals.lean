import Proviso.Number.FloatReading
import Proviso.Proofs.Number.Decimal
import Proviso.Proofs.Text.Runs

/-!
Numbers written out in digits: a sign, digits with a point among or around them, and an exponent,
where signs, point and exponent may be missing. What counts as a digit is a parameter. With the
ASCII digits it is the form of the numbers that are read as doubles, and besides them only the names
of infinity and of the value that is no number are read.
-/

namespace Proviso.Number

/-! ## The form of numbers -/

structure DigitChain (isDigit : Char → Bool) (text : List Char) : Prop where
  nonempty : text ≠ []
  areDigits : ∀ char ∈ text, isDigit char = true

inductive Sign : List Char → Prop
  | absent : Sign []
  | plus : Sign ['+']
  | minus : Sign ['-']

/-- That a text is made of digits, of which one may have a point in front of it or behind it. -/
inductive Mantissa (isDigit : Char → Bool) : List Char → Prop
  | whole {digits : List Char} (chain : DigitChain isDigit digits) : Mantissa isDigit digits
  | pointed {front behind : List Char} (chain : DigitChain isDigit (front ++ behind)) :
    Mantissa isDigit (front ++ '.' :: behind)

inductive Exponent (isDigit : Char → Bool) : List Char → Prop
  | absent : Exponent isDigit []
  | present {mark : Char} {sign digits : List Char} (isMark : mark = 'e' ∨ mark = 'E')
    (signed : Sign sign) (chain : DigitChain isDigit digits) :
    Exponent isDigit (mark :: (sign ++ digits))

inductive Numeral (isDigit : Char → Bool) : List Char → Prop
  | parts {sign mantissa exponent : List Char} (signed : Sign sign)
    (isMantissa : Mantissa isDigit mantissa) (isExponent : Exponent isDigit exponent) :
    Numeral isDigit (sign ++ (mantissa ++ exponent))

/-! ## Other digits -/

section

variable {isDigit other : Char → Bool} {text : List Char}

theorem DigitChain.mono (chain : DigitChain isDigit text)
    (agrees : ∀ char ∈ text, isDigit char = true → other char = true) : DigitChain other text where
  nonempty := chain.nonempty
  areDigits char member := agrees char member (chain.areDigits char member)

theorem Mantissa.mono (mantissa : Mantissa isDigit text)
    (agrees : ∀ char ∈ text, isDigit char = true → other char = true) : Mantissa other text := by
  cases mantissa with
  | whole chain => exact .whole (chain.mono agrees)
  | pointed chain =>
    refine .pointed (chain.mono fun char member => agrees char ?_)
    rw [List.mem_append] at member ⊢
    exact member.imp_right (List.mem_cons_of_mem _)

theorem Exponent.mono (exponent : Exponent isDigit text)
    (agrees : ∀ char ∈ text, isDigit char = true → other char = true) : Exponent other text := by
  cases exponent with
  | absent => exact .absent
  | present isMark signed chain =>
    refine .present isMark signed (chain.mono fun char member => agrees char ?_)
    exact List.mem_cons_of_mem _ (List.mem_append_right _ member)

theorem Numeral.mono (numeral : Numeral isDigit text)
    (agrees : ∀ char ∈ text, isDigit char = true → other char = true) : Numeral other text := by
  cases numeral with
  | parts signed isMantissa isExponent =>
    have agrees := (List.forall_mem_append.mp agrees).2
    obtain ⟨inMantissa, inExponent⟩ := List.forall_mem_append.mp agrees
    exact .parts signed (isMantissa.mono inMantissa) (isExponent.mono inExponent)

end

/-! ## Reading exponents -/

theorem isAsciiDigit_eq : isAsciiDigit = Char.isDigit := by
  funext char
  rw [Bool.eq_iff_iff]
  constructor
  · intro isSome
    obtain ⟨_, found⟩ := Option.isSome_iff_exists.mp isSome
    exact isDigit_of_digitValue? found
  · exact isAsciiDigit_of_isDigit

theorem exists_signed_iff {text : List Char} :
    (∃ number, Signed text number) ↔
      ∃ sign digits, Sign sign ∧ DigitChain Char.isDigit digits ∧ sign ++ digits = text := by
  constructor
  · intro ⟨number, signed⟩
    cases signed with
    | plain digits =>
      obtain ⟨nonempty, areDigits⟩ := digits
      exact ⟨[], text, .absent, ⟨nonempty, areDigits⟩, rfl⟩
    | plus digits =>
      obtain ⟨nonempty, areDigits⟩ := digits
      exact ⟨_, _, .plus, ⟨nonempty, areDigits⟩, rfl⟩
    | minus digits =>
      obtain ⟨nonempty, areDigits⟩ := digits
      exact ⟨_, _, .minus, ⟨nonempty, areDigits⟩, rfl⟩
  · intro ⟨sign, digits, signed, chain, joined⟩
    have unsigned := Unsigned.digits chain.nonempty chain.areDigits
    subst joined
    cases signed with
    | absent => exact ⟨_, .plain unsigned⟩
    | plus => exact ⟨_, .plus unsigned⟩
    | minus => exact ⟨_, .minus unsigned⟩

theorem isSome_readInt?_iff {text : List Char} :
    (readInt? text).isSome = true ↔
      ∃ sign digits, Sign sign ∧ DigitChain Char.isDigit digits ∧ sign ++ digits = text := by
  rw [Option.isSome_iff_exists, ← exists_signed_iff]
  simp only [readInt?_eq_some_iff]

theorem exponent_iff {text : List Char} :
    Exponent Char.isDigit text ↔ text = [] ∨ (readExponent? text).isSome = true := by
  constructor
  · intro exponent
    cases exponent with
    | absent => exact .inl rfl
    | present isMark signed chain =>
      refine .inr ?_
      rw [readExponent?, if_pos isMark]
      exact isSome_readInt?_iff.mpr ⟨_, _, signed, chain, rfl⟩
  · intro read
    cases text with
    | nil => exact .absent
    | cons mark rest =>
      have isSome := read.resolve_left (List.cons_ne_nil _ _)
      rw [readExponent?] at isSome
      split at isSome
      case isTrue isMark =>
        obtain ⟨sign, digits, signed, chain, joined⟩ := isSome_readInt?_iff.mp isSome
        exact joined ▸ .present isMark signed chain
      case isFalse => cases isSome

/-! ## Reading numbers without a sign -/

/-- What is read of the digits in front of a point and of those behind it, with what stands behind
them all. -/
def decimalText? (front behind rest : List Char) : Option DecimalText :=
  if front.isEmpty && behind.isEmpty then none
  else if rest.isEmpty then some ⟨front, behind, 0⟩
  else (readExponent? rest).map fun exponent => ⟨front, behind, exponent⟩

theorem isSome_decimalText?_iff {front behind rest : List Char} :
    (decimalText? front behind rest).isSome = true ↔
      front ++ behind ≠ [] ∧ Exponent Char.isDigit rest := by
  have isEmpty : (front.isEmpty && behind.isEmpty) = true ↔ front ++ behind = [] := by simp
  rw [exponent_iff, decimalText?]
  split
  case isTrue empty =>
    exact iff_of_false (by simp) fun both => both.1 (isEmpty.mp empty)
  case isFalse filled =>
    rw [isEmpty] at filled
    cases rest <;> simp [filled]

section

variable {front behind rest : List Char} (inFront : ∀ char ∈ front, char.isDigit = true)
  (ends : ∀ char ∈ rest.head?, char.isDigit = false)

include inFront ends

theorem readDecimalText?_whole (noPoint : rest.head? ≠ some '.') :
    readDecimalText? (front ++ rest) = decimalText? front [] rest := by
  have digits := Text.takeWhile_append_eq inFront ends
  have others := Text.dropWhile_append_eq inFront ends
  rw [readDecimalText?, isAsciiDigit_eq, digits, others]
  cases rest with
  | nil => rfl
  | cons char rest =>
    have different : char ≠ '.' := fun same => noPoint (congrArg some same)
    simp [different, decimalText?]

theorem readDecimalText?_pointed (inBehind : ∀ char ∈ behind, char.isDigit = true) :
    readDecimalText? (front ++ '.' :: (behind ++ rest)) = decimalText? front behind rest := by
  have endsAtPoint : ∀ char ∈ ('.' :: (behind ++ rest)).head?, char.isDigit = false := by
    simp
  have digits := Text.takeWhile_append_eq inFront endsAtPoint
  have others := Text.dropWhile_append_eq inFront endsAtPoint
  rw [readDecimalText?, isAsciiDigit_eq, digits, others]
  change decimalText? front ((behind ++ rest).takeWhile _) ((behind ++ rest).dropWhile _) = _
  rw [Text.takeWhile_append_eq inBehind ends, Text.dropWhile_append_eq inBehind ends]

end

theorem isSome_readDecimalText?_iff {text : List Char} :
    (readDecimalText? text).isSome = true ↔
      ∃ mantissa exponent, Mantissa Char.isDigit mantissa ∧ Exponent Char.isDigit exponent ∧
        mantissa ++ exponent = text := by
  constructor
  · intro read
    obtain ⟨front, rest, inFront, ends, joined⟩ := Text.exists_run Char.isDigit text
    subst joined
    by_cases pointed : rest.head? = some '.'
    case pos =>
      obtain ⟨others, isRest⟩ := List.head?_eq_some_iff.mp pointed
      obtain ⟨behind, last, inBehind, stops, joined⟩ := Text.exists_run Char.isDigit others
      subst isRest joined
      rw [readDecimalText?_pointed inFront stops inBehind, isSome_decimalText?_iff] at read
      refine ⟨front ++ '.' :: behind, last, .pointed ⟨read.1, ?_⟩, read.2, by simp⟩
      exact List.forall_mem_append.mpr ⟨inFront, inBehind⟩
    case neg =>
      rw [readDecimalText?_whole inFront ends pointed, isSome_decimalText?_iff,
        List.append_nil] at read
      exact ⟨front, rest, .whole ⟨read.1, inFront⟩, read.2, rfl⟩
  · intro ⟨mantissa, exponent, isMantissa, isExponent, joined⟩
    have ends : ∀ char ∈ exponent.head?, char.isDigit = false ∧ char ≠ '.' := by
      cases isExponent with
      | absent => nofun
      | present isMark =>
        simp only [List.head?_cons, Option.mem_def, Option.some.injEq, forall_eq']
        cases isMark with
        | inl isMark => subst isMark; decide
        | inr isMark => subst isMark; decide
    subst joined
    cases isMantissa with
    | whole chain =>
      rw [readDecimalText?_whole chain.areDigits fun char isHead => (ends char isHead).1]
      · exact isSome_decimalText?_iff.mpr ⟨by simpa using chain.nonempty, isExponent⟩
      · exact fun isHead => (ends '.' isHead).2 rfl
    | pointed chain =>
      obtain ⟨inFront, inBehind⟩ := List.forall_mem_append.mp chain.areDigits
      rw [List.append_assoc, List.cons_append,
        readDecimalText?_pointed inFront (fun char isHead => (ends char isHead).1) inBehind]
      exact isSome_decimalText?_iff.mpr ⟨chain.nonempty, isExponent⟩

/-! ## Reading doubles -/

def IsFloatName (text : List Char) : Prop :=
  lowerAscii text = "inf".toList ∨ lowerAscii text = "infinity".toList ∨
    lowerAscii text = "nan".toList

theorem isSome_readUnsignedFloat?_iff {text : List Char} :
    (readUnsignedFloat? text).isSome = true ↔
      IsFloatName text ∨ (readDecimalText? text).isSome = true := by
  rw [readUnsignedFloat?, IsFloatName, ← or_assoc]
  split
  case isTrue infinite => exact iff_of_true rfl (.inl (.inl infinite))
  case isFalse finite =>
    split
    case isTrue noNumber => exact iff_of_true rfl (.inl (.inr noNumber))
    case isFalse number =>
      rw [Option.isSome_map]
      exact (or_iff_right (not_or.mpr ⟨finite, number⟩)).symm

theorem readUnsignedFloat?_sign {sign : Char} (isSign : sign = '+' ∨ sign = '-')
    (rest : List Char) : readUnsignedFloat? (sign :: rest) = none := by
  have facts : sign.isDigit = false ∧ sign ≠ '.' ∧ ¬ IsFloatName (sign :: rest) := by
    cases isSign with
    | inl isPlus =>
      subst isPlus
      exact ⟨rfl, by decide, by simp [IsFloatName, lowerAscii]⟩
    | inr isMinus =>
      subst isMinus
      exact ⟨rfl, by decide, by simp [IsFloatName, lowerAscii]⟩
  obtain ⟨noDigit, noPoint, noName⟩ := facts
  have noDecimal : readDecimalText? ([] ++ sign :: rest) = none :=
    readDecimalText?_whole (by simp) (by simpa using noDigit) (by simpa using noPoint)
  rw [← Option.not_isSome_iff_eq_none, isSome_readUnsignedFloat?_iff, not_or]
  exact ⟨noName, Option.not_isSome_iff_eq_none.mpr noDecimal⟩

theorem isSome_readFloat?_iff_unsigned {text : List Char} :
    (readFloat? text).isSome = true ↔
      ∃ sign body, Sign sign ∧ (readUnsignedFloat? body).isSome = true ∧ sign ++ body = text := by
  constructor
  · intro read
    unfold readFloat? at read
    split at read
    case h_1 rest => exact ⟨_, rest, .minus, Option.isSome_map.symm.trans read, rfl⟩
    case h_2 rest => exact ⟨_, rest, .plus, read, rfl⟩
    case h_3 => exact ⟨[], text, .absent, read, rfl⟩
  · intro ⟨sign, body, signed, read, joined⟩
    subst joined
    cases signed with
    | absent =>
      rw [List.nil_append]
      unfold readFloat?
      split
      case h_1 => rw [readUnsignedFloat?_sign (.inr rfl)] at read; cases read
      case h_2 => rw [readUnsignedFloat?_sign (.inl rfl)] at read; cases read
      case h_3 => exact read
    | plus => exact read
    | minus => exact Option.isSome_map.trans read

/-- What is read as a double are the numerals in ASCII digits and the names, with or without a
sign. -/
theorem isSome_readFloat?_iff {text : List Char} :
    (readFloat? text).isSome = true ↔
      Numeral Char.isDigit text ∨ ∃ sign name, Sign sign ∧ IsFloatName name ∧ sign ++ name = text := by
  rw [isSome_readFloat?_iff_unsigned]
  simp only [isSome_readUnsignedFloat?_iff, isSome_readDecimalText?_iff]
  constructor
  · intro ⟨sign, body, signed, read, joined⟩
    cases read with
    | inl isName => exact .inr ⟨sign, body, signed, isName, joined⟩
    | inr isDecimal =>
      obtain ⟨mantissa, exponent, isMantissa, isExponent, isBody⟩ := isDecimal
      subst isBody joined
      exact .inl (.parts signed isMantissa isExponent)
  · intro read
    cases read with
    | inl numeral =>
      obtain ⟨signed, isMantissa, isExponent⟩ := numeral
      exact ⟨_, _, signed, .inr ⟨_, _, isMantissa, isExponent, rfl⟩, rfl⟩
    | inr isNamed =>
      obtain ⟨sign, name, signed, isName, joined⟩ := isNamed
      exact ⟨sign, name, signed, .inl isName, joined⟩

/-! ## ASCII -/

def IsAscii (text : List Char) : Prop :=
  ∀ char ∈ text, char.toNat < 0x80

theorem isAscii_of_all {text : List Char} (all : text.all (·.toNat < 0x80) = true) : IsAscii text :=
  fun char member => of_decide_eq_true (List.all_eq_true.mp all char member)

theorem isAscii_append_iff {first second : List Char} :
    IsAscii (first ++ second) ↔ IsAscii first ∧ IsAscii second :=
  List.forall_mem_append

theorem isAscii_cons_iff {first : Char} {rest : List Char} :
    IsAscii (first :: rest) ↔ first.toNat < 0x80 ∧ IsAscii rest :=
  List.forall_mem_cons

theorem Sign.isAscii {text : List Char} (sign : Sign text) : IsAscii text := by
  cases sign with
  | absent => exact fun _ => nofun
  | plus => simp [IsAscii]
  | minus => simp [IsAscii]

theorem DigitChain.isAscii {text : List Char} (chain : DigitChain Char.isDigit text) :
    IsAscii text := by
  intro char member
  have bound : char.toNat ≤ '9'.toNat := (Char.isDigit_iff_toNat.mp (chain.areDigits char member)).2
  exact Nat.lt_of_le_of_lt bound (by decide)

theorem Mantissa.isAscii {text : List Char} (mantissa : Mantissa Char.isDigit text) :
    IsAscii text := by
  cases mantissa with
  | whole chain => exact chain.isAscii
  | pointed chain =>
    obtain ⟨front, behind⟩ := isAscii_append_iff.mp chain.isAscii
    exact isAscii_append_iff.mpr ⟨front, isAscii_cons_iff.mpr ⟨by decide, behind⟩⟩

theorem Exponent.isAscii {text : List Char} (exponent : Exponent Char.isDigit text) :
    IsAscii text := by
  cases exponent with
  | absent => exact fun _ => nofun
  | present isMark signed chain =>
    refine isAscii_cons_iff.mpr ⟨?_, isAscii_append_iff.mpr ⟨signed.isAscii, chain.isAscii⟩⟩
    cases isMark with
    | inl isMark => subst isMark; decide
    | inr isMark => subst isMark; decide

theorem Numeral.isAscii {text : List Char} (numeral : Numeral Char.isDigit text) :
    IsAscii text := by
  obtain ⟨signed, isMantissa, isExponent⟩ := numeral
  exact isAscii_append_iff.mpr
    ⟨signed.isAscii, isAscii_append_iff.mpr ⟨isMantissa.isAscii, isExponent.isAscii⟩⟩

theorem toLower_eq_self {char : Char} (large : 0x80 ≤ char.toNat) : char.toLower = char := by
  refine dif_neg fun upper => ?_
  have bound : char.toNat ≤ 'Z'.toNat := UInt32.le_iff_toNat_le.mp upper.2
  exact absurd (Nat.le_trans large bound) (by decide)

theorem IsFloatName.isAscii {text : List Char} (isName : IsFloatName text) : IsAscii text := by
  have lowered : IsAscii (lowerAscii text) := by
    apply isAscii_of_all
    obtain isName | isName | isName := isName
    all_goals rw [isName]; decide
  intro char member
  by_contra large
  have small := lowered _ (List.mem_map_of_mem member)
  rw [toLower_eq_self (Nat.le_of_not_lt large)] at small
  exact large small

theorem isAscii_of_readFloat? {text : List Char} (read : (readFloat? text).isSome = true) :
    IsAscii text := by
  cases isSome_readFloat?_iff.mp read with
  | inl numeral => exact numeral.isAscii
  | inr isNamed =>
    obtain ⟨sign, name, signed, isName, joined⟩ := isNamed
    exact joined ▸ isAscii_append_iff.mpr ⟨signed.isAscii, isName.isAscii⟩

end Proviso.Number
