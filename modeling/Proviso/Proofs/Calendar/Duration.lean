import Proviso.Calendar.Duration
import Proviso.Proofs.Calendar.Moment

/-!
Durations read back from their texts. A duration of whole seconds is written with its sign, its days
if there are any, and a clock; reading adds the parts up again, and no partial sum is longer than
the duration itself.
-/

namespace Proviso.Calendar.Duration

open Number Text

/-! ## Cutting -/

theorem cutAt?_append {char : Char} {before : List Char} (absent : char ∉ before)
    (after : List Char) : cutAt? char (before ++ char :: after) = some (before, after) := by
  induction before with
  | nil => simp [cutAt?]
  | cons first rest induction =>
    rw [List.mem_cons, not_or] at absent
    rw [List.cons_append, cutAt?, if_neg (Ne.symm absent.1), induction absent.2]
    rfl

theorem cutAt?_of_notMem {char : Char} {text : List Char} (absent : char ∉ text) :
    cutAt? char text = none := by
  induction text with
  | nil => rfl
  | cons first rest induction =>
    rw [List.mem_cons, not_or] at absent
    rw [cutAt?, if_neg (Ne.symm absent.1), induction absent.2]
    rfl

theorem cutAt?_eq_some_iff {char : Char} {text before after : List Char} :
    cutAt? char text = some (before, after) ↔ text = before ++ char :: after ∧ char ∉ before := by
  constructor
  · intro cut
    induction text generalizing before with
    | nil => cases cut
    | cons first rest induction =>
      rw [cutAt?] at cut
      split at cut
      case isTrue isChar =>
        cases cut
        exact ⟨by rw [isChar, List.nil_append], List.not_mem_nil⟩
      case isFalse other =>
        rcases Option.map_eq_some_iff.mp cut with ⟨⟨others, _⟩, cutRest, equal⟩
        cases equal
        rcases induction cutRest with ⟨rfl, absent⟩
        exact ⟨rfl, List.not_mem_cons_of_ne_of_not_mem (Ne.symm other) absent⟩
  · rintro ⟨rfl, absent⟩
    exact cutAt?_append absent after

theorem notMem_paddedDecimal {char : Char} (noDigit : char.isDigit = false) (width number : Nat) :
    char ∉ paddedDecimal width number := by
  intro member
  rw [isDigit_of_mem_paddedDecimal member] at noDigit
  cases noDigit

/-! ## Clocks -/

theorem readClock?_clockText {hours minutes seconds : Nat} (hour : hours < 24)
    (minute : minutes < 60) (second : seconds < 60) :
    readClock? (Moment.clockText hours minutes seconds) =
      some ((hours : Int), (minutes : Int), (seconds : Int)) := by
  have noColon (number : Nat) : ':' ∉ paddedDecimal 2 number := notMem_paddedDecimal rfl 2 number
  have small {number : Nat} (less : number < 60) : number < 2 ^ 63 :=
    Nat.lt_trans less (by decide)
  rcases readInt64?_paddedDecimal 2 (small (Nat.lt_trans hour (by decide))) with
    ⟨hourWord, hourRead, sameHours⟩
  rcases readInt64?_paddedDecimal 2 (small minute) with ⟨minuteWord, minuteRead, sameMinutes⟩
  rcases readInt64?_paddedDecimal 2 (small second) with ⟨secondWord, secondRead, sameSeconds⟩
  have inRange : ¬ (60 ≤ minuteWord.toInt ∨ 60 ≤ secondWord.toInt) := by omega
  rw [Moment.clockText, List.append_assoc, List.cons_append, readClock?,
    cutAt?_append (noColon hours)]
  simp only [Option.bind_eq_bind, Option.bind_some, cutAt?_append (noColon minutes),
    cutAt?_of_notMem (noColon seconds), Option.isSome_none, Bool.false_eq_true, if_false, hourRead,
    minuteRead, secondRead]
  rw [if_neg inRange, sameHours, sameMinutes, sameSeconds]

theorem notMem_clockText {char : Char} (noDigit : char.isDigit = false) (noColon : char ≠ ':')
    (hours minutes seconds : Nat) : char ∉ Moment.clockText hours minutes seconds := by
  simp [Moment.clockText, notMem_paddedDecimal noDigit, noColon]

/-! ## Sums -/

theorem of?_eq {nanoseconds : Int} (isDuration : IsDuration nanoseconds) :
    of? nanoseconds = some ⟨nanoseconds, isDuration⟩ :=
  dif_pos isDuration

theorem ofClock?_eq {days hours minutes seconds : Nat}
    (isDuration : IsDuration
      ((days * 86400 + hours * 3600 + minutes * 60 + seconds : Int) * nanosecondsPerSecond)) :
    ofClock? days hours minutes seconds =
      of? ((days * 86400 + hours * 3600 + minutes * 60 + seconds : Int) *
        nanosecondsPerSecond) := by
  have within {part : Int} (positive : 0 ≤ part)
      (less : part ≤ days * 86400 + hours * 3600 + minutes * 60 + seconds) :
      IsDuration (part * nanosecondsPerSecond) := by
    unfold IsDuration durationLimit nanosecondsPerSecond at *
    omega
  simp only [ofClock?, ofSeconds?, add?, Option.bind_eq_bind]
  rw [of?_eq (within (by omega) (by omega)), Option.bind_some,
    of?_eq (within (by omega) (by omega)), Option.bind_some,
    of?_eq (within (by omega) (by omega)), Option.bind_some,
    of?_eq (within (by omega) (by omega)), Option.bind_some]
  simp only [← Int.add_mul]
  rw [of?_eq (within (by omega) (by omega)), Option.bind_some]
  simp only [← Int.add_mul]
  rw [of?_eq (within (by omega) (by omega)), Option.bind_some]
  simp only [← Int.add_mul]

/-! ## Durations -/

def IsWhole (duration : Duration) : Prop :=
  duration.nanoseconds % nanosecondsPerSecond = 0

def unsignedText (total : Nat) : List Char :=
  let clock := Moment.clockText (total % 86400 / 3600) (total % 3600 / 60) (total % 60)
  if 0 < total / 86400 then decimal (total / 86400) ++ '.' :: clock else clock

theorem readUnsigned?_of_noPoint {text : List Char} (absent : '.' ∉ text) :
    readUnsigned? text =
      (readClock? text).bind fun (hours, minutes, seconds) => ofClock? 0 hours minutes seconds := by
  rw [readUnsigned?, cutAt?_of_notMem absent]
  rfl

theorem readUnsigned?_unsignedText {total : Nat}
    (isDuration : IsDuration ((total : Int) * nanosecondsPerSecond)) :
    readUnsigned? (unsignedText total) = of? ((total : Int) * nanosecondsPerSecond) := by
  have hour : total % 86400 / 3600 < 24 := by omega
  have minute : total % 3600 / 60 < 60 := by omega
  have second : total % 60 < 60 := Nat.mod_lt _ (by decide)
  have small : total / 86400 < 2 ^ 63 := by
    unfold IsDuration durationLimit nanosecondsPerSecond at isDuration
    omega
  have clock := readClock?_clockText hour minute second
  have noPoint : '.' ∉ Moment.clockText (total % 86400 / 3600) (total % 3600 / 60) (total % 60) :=
    notMem_clockText rfl (by decide) _ _ _
  have sum : (total / 86400 : Nat) * 86400 + (total % 86400 / 3600 : Nat) * 3600 +
      (total % 3600 / 60 : Nat) * 60 + (total % 60 : Nat) = (total : Int) := by
    omega
  have added : ofClock? (total / 86400 : Nat) (total % 86400 / 3600 : Nat)
      (total % 3600 / 60 : Nat) (total % 60 : Nat) =
        of? ((total : Int) * nanosecondsPerSecond) := by
    rw [ofClock?_eq (sum ▸ isDuration), sum]
  unfold unsignedText
  by_cases hasDays : 0 < total / 86400
  · rcases readInt64?_paddedDecimal 0 small with ⟨days, daysRead, sameDays⟩
    rw [if_pos hasDays, decimal_eq_padded, readUnsigned?,
      cutAt?_append (notMem_paddedDecimal rfl 0 _)]
    simp only [Option.bind_eq_bind, daysRead, clock, Option.bind_some, sameDays]
    exact added
  · have noDays : total / 86400 = 0 := Nat.eq_zero_of_not_pos hasDays
    rw [noDays, Int.natCast_zero] at added
    rw [if_neg hasDays, readUnsigned?_of_noPoint noPoint, clock, Option.bind_some]
    exact added

theorem text_eq (duration : Duration) :
    duration.text.toList = (if duration.nanoseconds < 0 then ['-'] else []) ++
      unsignedText duration.seconds.natAbs := by
  simp [text, unsignedText]

theorem unsignedText_ne_nil (total : Nat) : unsignedText total ≠ [] := by
  unfold unsignedText Moment.clockText
  dsimp only
  split <;> simp

theorem isDigit_of_end_unsignedText {total : Nat} {char : Char}
    (atEnd : char ∈ (unsignedText total).head? ∨ char ∈ (unsignedText total).getLast?) :
    char.isDigit = true := by
  rcases atEnd with isFirst | isLast
  · unfold unsignedText at isFirst
    dsimp only at isFirst
    split at isFirst
    · rw [List.head?_append_of_ne_nil _ (decimal_ne_nil _)] at isFirst
      exact isDigit_of_mem_decimal (List.mem_of_head? isFirst)
    · rw [Moment.clockText, List.append_assoc,
        List.head?_append_of_ne_nil _ (paddedDecimal_ne_nil _ _)] at isFirst
      exact isDigit_of_mem_paddedDecimal (List.mem_of_head? isFirst)
  · have ends : ∃ before, unsignedText total = before ++ paddedDecimal 2 (total % 60) := by
      unfold unsignedText Moment.clockText
      dsimp only
      split
      · exact ⟨decimal (total / 86400) ++ '.' :: (paddedDecimal 2 (total % 86400 / 3600) ++
          ':' :: (paddedDecimal 2 (total % 3600 / 60) ++ [':'])), by simp⟩
      · exact ⟨paddedDecimal 2 (total % 86400 / 3600) ++
          ':' :: (paddedDecimal 2 (total % 3600 / 60) ++ [':']), by simp⟩
    rcases ends with ⟨before, text⟩
    rw [text, List.getLast?_append_of_ne_nil _ (paddedDecimal_ne_nil _ _)] at isLast
    exact isDigit_of_mem_paddedDecimal (List.mem_of_getLast? isLast)

theorem not_isBlank_of_end_unsignedText {total : Nat} {char : Char}
    (atEnd : char ∈ (unsignedText total).head? ∨ char ∈ (unsignedText total).getLast?) :
    isBlank char = false :=
  not_isBlank_of_isDigit (isDigit_of_end_unsignedText atEnd)

theorem read?_unsignedText (total : Nat) :
    read? (unsignedText total) = readUnsigned? (unsignedText total) := by
  have trimmed : trim (unsignedText total) = unsignedText total :=
    trim_eq_self (fun _ isFirst => not_isBlank_of_end_unsignedText (.inl isFirst))
      fun _ isLast => not_isBlank_of_end_unsignedText (.inr isLast)
  have noSign (rest : List Char) : unsignedText total ≠ '-' :: rest := by
    intro signed
    have isFirst : '-' ∈ (unsignedText total).head? := by
      rw [signed]
      rfl
    cases isDigit_of_end_unsignedText (.inl isFirst)
  rw [read?, trimmed]
  split
  case h_1 rest signed => exact absurd signed (noSign rest)
  case h_2 => rfl

theorem read?_minus_unsignedText (total : Nat) :
    read? ('-' :: unsignedText total) = (readUnsigned? (unsignedText total)).map neg := by
  have trimmed : trim ('-' :: unsignedText total) = '-' :: unsignedText total := by
    refine trim_eq_self (fun char isFirst => ?_) fun char isLast => ?_
    · cases isFirst
      decide
    · rw [← List.singleton_append, List.getLast?_append_of_ne_nil _ (unsignedText_ne_nil _)]
        at isLast
      exact not_isBlank_of_end_unsignedText (.inr isLast)
  rw [read?, trimmed]
  rfl

@[simp] theorem neg_neg (duration : Duration) : duration.neg.neg = duration := by
  simp [neg]

/-- A duration of whole seconds is read back from its text. -/
theorem read?_text (duration : Duration) (whole : duration.IsWhole) :
    read? duration.text.toList = some duration := by
  have seconds : duration.seconds * nanosecondsPerSecond = duration.nanoseconds :=
    Int.tdiv_mul_cancel (Int.dvd_of_emod_eq_zero whole)
  rw [text_eq]
  by_cases negative : duration.nanoseconds < 0
  · have opposite : (duration.seconds.natAbs : Int) * nanosecondsPerSecond =
        duration.neg.nanoseconds := by
      simp only [neg, nanosecondsPerSecond] at *
      omega
    have isDuration := opposite ▸ duration.neg.isDuration
    rw [if_pos negative, List.cons_append, List.nil_append, read?_minus_unsignedText,
      readUnsigned?_unsignedText isDuration, opposite, of?_eq duration.neg.isDuration,
      Option.map_some, neg_neg]
  · have same : (duration.seconds.natAbs : Int) * nanosecondsPerSecond =
        duration.nanoseconds := by
      simp only [nanosecondsPerSecond] at *
      omega
    have isDuration := same ▸ duration.isDuration
    rw [if_neg negative, List.nil_append, read?_unsignedText,
      readUnsigned?_unsignedText isDuration, same, of?_eq duration.isDuration]

end Proviso.Calendar.Duration
