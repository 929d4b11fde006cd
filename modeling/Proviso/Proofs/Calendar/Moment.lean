import Mathlib.Data.List.Basic
import Mathlib.Data.List.TakeWhile
import Proviso.Calendar.Layout
import Proviso.Proofs.Number.Decimal
import Proviso.Proofs.Text.Runs

/-!
Moments read back from their texts. A moment without a fraction of a second is written in the first
of the common layouts, whatever the sign and the number of digits of its year, and is no time stamp,
which would name an offset from universal time.
-/

namespace Proviso

open Number

namespace Text

theorem trimStart_cons {char : Char} (visible : isBlank char = false) (rest : List Char) :
    trimStart (char :: rest) = char :: rest := by
  rw [trimStart, List.dropWhile_cons, visible]
  rfl

theorem trim_eq_self {text : List Char} (begins : ∀ char ∈ text.head?, isBlank char = false)
    (ends : ∀ char ∈ text.getLast?, isBlank char = false) : trim text = text := by
  have kept {text : List Char} (begins : ∀ char ∈ text.head?, isBlank char = false) :
      text.dropWhile isBlank = text := by
    cases text with
    | nil => rfl
    | cons char rest => exact trimStart_cons (begins char rfl) rest
  rw [trim, trimStart, kept begins, trimEnd, kept (by rwa [List.head?_reverse]),
    List.reverse_reverse]

theorem not_isBlank_of_isDigit {char : Char} (digit : char.isDigit = true) :
    isBlank char = false := by
  have bounds : 48 ≤ char.toNat ∧ char.toNat ≤ 57 := by
    simpa [Char.isDigit, UInt32.le_iff_toNat_le] using digit
  have ascending : blankRanges.Ascending := by decide
  rw [Bool.eq_false_iff, isBlank, CodeRanges.contains, Ne, CodeRanges.holds_iff ascending]
  simp only [blankRanges, List.mem_cons, List.not_mem_nil, or_false, exists_eq_or_imp,
    exists_eq_left]
  omega

end Text

namespace Calendar

open Text

/-! ## Digits in front of other text -/

theorem takeWhile_digits {digits : List Char}
    (areDigits : ∀ char ∈ digits, char.isDigit = true) :
    digits.takeWhile isAsciiDigit = digits :=
  List.takeWhile_eq_self_iff.mpr fun char member => isAsciiDigit_of_isDigit (areDigits char member)

theorem takeWhile_digits_append {digits rest : List Char}
    (areDigits : ∀ char ∈ digits, char.isDigit = true)
    (ends : ∀ char ∈ rest.head?, isAsciiDigit char = false) :
    (digits ++ rest).takeWhile isAsciiDigit = digits :=
  Text.takeWhile_append_eq (fun char member => isAsciiDigit_of_isDigit (areDigits char member)) ends

theorem takeDigits?_append {count : Nat} {digits rest : List Char} (length : digits.length = count)
    (areDigits : ∀ char ∈ digits, char.isDigit = true) :
    takeDigits? count (digits ++ rest) = some (Nat.ofDigitChars 10 digits 0, rest) := by
  have taken : ((digits ++ rest).take count).takeWhile isAsciiDigit = digits := by
    rw [← length, List.take_left, takeWhile_digits areDigits]
  rw [takeDigits?, taken, if_pos length, digitsValue_eq, ← length, List.drop_left]

theorem takeNumber?_append {most : Nat} {digits rest : List Char} (nonempty : digits ≠ [])
    (areDigits : ∀ char ∈ digits, char.isDigit = true)
    (ends : digits.length = most ∨
      digits.length ≤ most ∧ ∀ char ∈ rest.head?, isAsciiDigit char = false) :
    takeNumber? most (digits ++ rest) = some (Nat.ofDigitChars 10 digits 0, rest) := by
  have taken : ((digits ++ rest).take most).takeWhile isAsciiDigit = digits := by
    rcases ends with length | ⟨short, ends⟩
    · rw [← length, List.take_left, takeWhile_digits areDigits]
    · rw [List.take_append, List.take_of_length_le short]
      refine takeWhile_digits_append areDigits fun char isNext => ends char ?_
      rw [List.head?_take] at isNext
      split at isNext
      · cases isNext
      · exact isNext
  rw [takeNumber?, taken, if_neg (by simpa using nonempty), digitsValue_eq, List.drop_left]

theorem takeDigits?_paddedDecimal {width number : Nat} (positive : 0 < width)
    (small : number < 10 ^ width) (rest : List Char) :
    takeDigits? width (paddedDecimal width number ++ rest) = some (number, rest) := by
  have areDigits : ∀ char ∈ paddedDecimal width number, char.isDigit = true :=
    fun _ => isDigit_of_mem_paddedDecimal
  rw [takeDigits?_append (length_paddedDecimal positive small) areDigits,
    ofDigitChars_paddedDecimal]

theorem takeNumber?_paddedDecimal {width number : Nat} (positive : 0 < width)
    (small : number < 10 ^ width) (rest : List Char) :
    takeNumber? width (paddedDecimal width number ++ rest) = some (number, rest) := by
  rw [takeNumber?_append (paddedDecimal_ne_nil width number) (fun _ => isDigit_of_mem_paddedDecimal)
    (.inl (length_paddedDecimal positive small)), ofDigitChars_paddedDecimal]

theorem paddedDecimal_eq_cons (width number : Nat) :
    ∃ first rest, paddedDecimal width number = first :: rest ∧ first.isDigit = true := by
  cases digits : paddedDecimal width number with
  | nil => exact absurd digits (paddedDecimal_ne_nil width number)
  | cons first rest =>
    exact ⟨first, rest, rfl, isDigit_of_mem_paddedDecimal (digits ▸ List.mem_cons_self ..)⟩

theorem trimStart_paddedDecimal_append (width number : Nat) (rest : List Char) :
    trimStart (paddedDecimal width number ++ rest) = paddedDecimal width number ++ rest := by
  rcases paddedDecimal_eq_cons width number with ⟨first, others, digits, isDigit⟩
  rw [digits, List.cons_append, trimStart_cons (not_isBlank_of_isDigit isDigit)]

theorem not_isBlank_of_mem_paddedDecimal {width number : Nat} {char : Char}
    (member : char ∈ paddedDecimal width number) : isBlank char = false :=
  not_isBlank_of_isDigit (isDigit_of_mem_paddedDecimal member)

/-! ## Years -/

/-- A year of the common range has four digits; any other has a sign in front of its digits. -/
theorem yearText_cases (year : Int) :
    (0 ≤ year ∧ year ≤ 9999 ∧ Date.yearText year = paddedDecimal 4 year.natAbs) ∨
      ∃ sign, (sign = '-' ∧ year < 0 ∨ sign = '+' ∧ 0 ≤ year) ∧
        Date.yearText year = sign :: paddedDecimal 4 year.natAbs := by
  unfold Date.yearText
  split
  case isTrue common => exact .inl ⟨common.1, common.2, rfl⟩
  case isFalse =>
    refine .inr ⟨_, ?_, rfl⟩
    split
    case isTrue negative => exact .inl ⟨rfl, negative⟩
    case isFalse positive => exact .inr ⟨rfl, Int.not_lt.mp positive⟩

theorem takeYear?_yearText (year : Int) (rest : List Char) :
    takeYear? (trimStart (Date.yearText year ++ '-' :: rest)) = some (year, '-' :: rest) := by
  have ends : ∀ char ∈ ('-' :: rest).head?, isAsciiDigit char = false := by
    rintro char ⟨⟩
    decide
  -- Behind a sign the digits are taken up to the mark that follows them.
  have taken (number : Nat) (text : List Char)
      (isText : text = paddedDecimal 4 number ++ '-' :: rest) :
      takeNumber? text.length text = some (number, '-' :: rest) := by
    rw [isText, takeNumber?_append (paddedDecimal_ne_nil 4 number)
      (fun _ => isDigit_of_mem_paddedDecimal) (.inr ⟨by simp, ends⟩), ofDigitChars_paddedDecimal]
  rcases yearText_cases year with
    ⟨positive, small, text⟩ | ⟨sign, ⟨rfl, negative⟩ | ⟨rfl, positive⟩, text⟩
  · have fits : year.natAbs < 10 ^ 4 := by omega
    rw [text, trimStart_paddedDecimal_append]
    rcases paddedDecimal_eq_cons 4 year.natAbs with ⟨first, others, digits, isDigit⟩
    have noSign (sign : Char) (isSign : sign.isDigit = false) (others : List Char) :
        paddedDecimal 4 year.natAbs ++ '-' :: rest ≠ sign :: others := by
      rw [digits]
      rintro ⟨⟩
      rw [isSign] at isDigit
      cases isDigit
    unfold takeYear?
    split
    case h_1 others same => exact absurd same (noSign '-' rfl others)
    case h_2 others same => exact absurd same (noSign '+' rfl others)
    case h_3 =>
      rw [takeNumber?_paddedDecimal (by decide) fits]
      have same : (year.natAbs : Int) = year := by omega
      exact congrArg (fun year => some (year, '-' :: rest)) same
  · rw [text, List.cons_append, trimStart_cons (by decide), takeYear?, taken _ _ rfl]
    have same : -(year.natAbs : Int) = year := by omega
    exact congrArg (fun year => some (year, '-' :: rest)) same
  · rw [text, List.cons_append, trimStart_cons (by decide), takeYear?, taken _ _ rfl]
    have same : (year.natAbs : Int) = year := by omega
    exact congrArg (fun year => some (year, '-' :: rest)) same

/-! ## Moments -/

@[simp] theorem expect?_self (char : Char) (rest : List Char) :
    expect? char (char :: rest) = some rest := by
  simp [expect?]

namespace Moment

variable (moment : Moment)

theorem parts_lt : moment.date.month < 10 ^ 2 ∧ moment.date.day < 10 ^ 2 ∧ moment.hour < 10 ^ 2 ∧
    moment.minute < 10 ^ 2 ∧ moment.second < 10 ^ 2 := by
  rcases moment.date.isDate with ⟨_, _, _, month, _, day⟩
  rcases moment.isTime with ⟨hour, minute, second, _⟩
  have longest : daysInMonth moment.date.year moment.date.month ≤ 31 := by
    unfold daysInMonth
    split <;> try split
    all_goals decide
  omega

def textBehindYear : List Char :=
  '-' :: (paddedDecimal 2 moment.date.month ++ '-' :: (paddedDecimal 2 moment.date.day ++
    ' ' :: (paddedDecimal 2 moment.hour ++ ':' :: (paddedDecimal 2 moment.minute ++
      ':' :: paddedDecimal 2 moment.second))))

theorem text_of_whole (whole : moment.nanosecond = 0) :
    moment.text.toList = Date.yearText moment.date.year ++ moment.textBehindYear := by
  simp [text, Date.text, clockText, textBehindYear, whole, nanosecondsPerSecond]

theorem exists_before_seconds (whole : moment.nanosecond = 0) :
    ∃ before, moment.text.toList = before ++ paddedDecimal 2 moment.second := by
  refine ⟨Date.yearText moment.date.year ++ '-' :: (paddedDecimal 2 moment.date.month ++
    '-' :: (paddedDecimal 2 moment.date.day ++ ' ' :: (paddedDecimal 2 moment.hour ++
      ':' :: (paddedDecimal 2 moment.minute ++ [':'])))), ?_⟩
  simp [moment.text_of_whole whole, textBehindYear]

theorem ofParts?_self (whole : moment.nanosecond = 0) :
    ofParts? moment.date.year moment.date.month moment.date.day moment.hour moment.minute
      moment.second 0 = some moment := by
  have noExtra : moment.second ≠ 60 := Nat.ne_of_lt moment.isTime.2.2.1
  have isTime := moment.isTime
  rw [whole] at isTime
  rw [ofParts?, Date.of?_self, Option.bind_eq_bind, Option.bind_some, if_neg noExtra, of?,
    dif_pos isTime]
  cases moment
  cases whole
  rfl

theorem readLayout?_text (whole : moment.nanosecond = 0) :
    readLayout? (dashedDate ++ .blanks :: clock) moment.text.toList = some moment := by
  rcases moment.parts_lt with ⟨month, day, hour, minute, second⟩
  have positive : 0 < 2 := by decide
  have skipped (rest : List Char) : trimStart (' ' :: rest) = trimStart rest := rfl
  have seconds : takeNumber? 2 (trimStart (paddedDecimal 2 moment.second)) =
      some (moment.second, []) := by
    have taken := takeNumber?_paddedDecimal positive second []
    rwa [← trimStart_paddedDecimal_append, List.append_nil] at taken
  rw [moment.text_of_whole whole, readLayout?]
  simp only [dashedDate, clock, shortClock, List.cons_append, List.nil_append, readItems?,
    LayoutItem.read?, textBehindYear, takeYear?_yearText, Option.map_some, Option.bind_some,
    expect?_self, trimStart_paddedDecimal_append, takeNumber?_paddedDecimal positive month,
    takeNumber?_paddedDecimal positive day, takeNumber?_paddedDecimal positive hour,
    takeNumber?_paddedDecimal positive minute, seconds, skipped]
  exact moment.ofParts?_self whole

theorem takeDigits?_bind {Result : Type} {width number : Nat} (positive : 0 < width)
    (small : number < 10 ^ width) (rest : List Char)
    (next : Nat × List Char → Option Result) :
    takeDigits? width (paddedDecimal width number ++ rest) >>= next = next (number, rest) := by
  rw [takeDigits?_paddedDecimal positive small]
  rfl

theorem expect?_bind {Result : Type} (char : Char) (rest : List Char)
    (next : List Char → Option Result) : expect? char (char :: rest) >>= next = next rest := by
  rw [expect?_self]
  rfl

/-- The text of a moment is no time stamp: it names no offset. -/
theorem readStamp?_text (whole : moment.nanosecond = 0) :
    readStamp? moment.text.toList = none := by
  rcases moment.parts_lt with ⟨month, day, hour, minute, second⟩
  rw [moment.text_of_whole whole, readStamp?]
  rcases yearText_cases moment.date.year with ⟨_, small, text⟩ | ⟨sign, isSign, text⟩
  · have year : moment.date.year.natAbs < 10 ^ 4 := by omega
    have ends : paddedDecimal 2 moment.second = paddedDecimal 2 moment.second ++ [] :=
      (List.append_nil _).symm
    have mark (rest : List Char) :
        (expect? 'T' (' ' :: rest) <|> expect? 't' (' ' :: rest) <|> expect? ' ' (' ' :: rest)) =
          expect? ' ' (' ' :: rest) := rfl
    have positive : 0 < 2 := by decide
    rw [text, takeDigits?_bind (by decide) year, textBehindYear, ends]
    dsimp only
    rw [expect?_bind, takeDigits?_bind positive month]
    dsimp only
    rw [expect?_bind, takeDigits?_bind positive day]
    dsimp only
    rw [mark, expect?_bind, takeDigits?_bind positive hour]
    dsimp only
    rw [expect?_bind, takeDigits?_bind positive minute]
    dsimp only
    rw [expect?_bind, takeDigits?_bind positive second]
    -- Behind the seconds the text ends, where a stamp goes on with its offset.
    rfl
  · have noDigit : isAsciiDigit sign = false := by
      rcases isSign with ⟨rfl, _⟩ | ⟨rfl, _⟩ <;> decide
    have noDigits (rest : List Char) : takeDigits? 4 (sign :: rest) = none := by
      simp [takeDigits?, noDigit]
    rw [text, List.cons_append, noDigits]
    rfl

/-- A moment without a fraction of a second is read back from its text. -/
theorem readMoment?_text (whole : moment.nanosecond = 0) :
    readMoment? moment.text.toList = some moment := by
  have unblanked : trim moment.text.toList = moment.text.toList := by
    refine trim_eq_self (fun char isFirst => ?_) fun char isLast => ?_
    · rcases yearText_cases moment.date.year with ⟨_, _, text⟩ | ⟨sign, isSign, text⟩
      · rw [moment.text_of_whole whole, text, List.head?_append_of_ne_nil _
          (paddedDecimal_ne_nil _ _)] at isFirst
        exact not_isBlank_of_mem_paddedDecimal (List.mem_of_head? isFirst)
      · rw [moment.text_of_whole whole, text] at isFirst
        cases isFirst
        rcases isSign with ⟨rfl, _⟩ | ⟨rfl, _⟩ <;> decide
    · have isLast : char ∈ (paddedDecimal 2 moment.second).getLast? := by
        rcases moment.exists_before_seconds whole with ⟨before, text⟩
        rwa [text, List.getLast?_append_of_ne_nil _ (paddedDecimal_ne_nil _ _)] at isLast
      exact not_isBlank_of_mem_paddedDecimal (List.mem_of_getLast? isLast)
  rw [readMoment?, unblanked, moment.readStamp?_text whole, layouts, List.findSome?_cons,
    moment.readLayout?_text whole]
  rfl

end Moment

end Calendar

end Proviso
