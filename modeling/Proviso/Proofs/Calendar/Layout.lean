import Proviso.Proofs.Calendar.Duration

/-!
The layout of durations. A text is read as a duration if days, hours, minutes and seconds stand in
it, behind a minus sign if it has one, and add up within the range of durations. Each of the four
numbers may have a sign of its own; where none has, the first minus sign alone decides.
-/

namespace Proviso.Calendar.Duration

open Number Text

/-! ## Parts -/

structure Parts where
  days : Int
  hours : Int
  minutes : Int
  seconds : Int

namespace Parts

def numbers (parts : Parts) : List Int :=
  [parts.days, parts.hours, parts.minutes, parts.seconds]

def inSeconds (parts : Parts) : List Int :=
  [parts.days * 86400, parts.hours * 3600, parts.minutes * 60, parts.seconds]

def total (parts : Parts) : Int :=
  parts.days * 86400 + parts.hours * 3600 + parts.minutes * 60 + parts.seconds

def sums (parts : Parts) : List Int :=
  [parts.days * 86400 + parts.hours * 3600,
    parts.days * 86400 + parts.hours * 3600 + parts.minutes * 60, parts.total]

structure InRange (parts : Parts) : Prop where
  part : ∀ part ∈ parts.inSeconds, IsDuration (part * nanosecondsPerSecond)
  sum : ∀ sum ∈ parts.sums, IsDuration (sum * nanosecondsPerSecond)

theorem InRange.isWord {parts : Parts} (inRange : parts.InRange) :
    ∀ number ∈ parts.numbers, -2 ^ 63 ≤ number ∧ number < 2 ^ 63 := by
  have part := inRange.part
  simp only [inSeconds, numbers, List.forall_mem_cons, IsDuration, durationLimit,
    nanosecondsPerSecond] at part ⊢
  exact ⟨by omega, by omega, by omega, by omega, List.forall_mem_nil _⟩

end Parts

theorem of?_eq_some_iff {nanoseconds : Int} {duration : Duration} :
    of? nanoseconds = some duration ↔ duration.nanoseconds = nanoseconds := by
  constructor
  · intro built
    rw [of?] at built
    split at built
    case isTrue =>
      cases built
      rfl
    case isFalse => cases built
  · rintro rfl
    exact of?_eq duration.isDuration

theorem ofClock?_eq_some_iff {parts : Parts} {duration : Duration} :
    ofClock? parts.days parts.hours parts.minutes parts.seconds = some duration ↔
      parts.InRange ∧ duration.nanoseconds = parts.total * nanosecondsPerSecond := by
  simp only [ofClock?, ofSeconds?, add?, Option.bind_eq_bind, Option.bind_eq_some_iff,
    of?_eq_some_iff]
  constructor
  · rintro ⟨days, isDays, hours, isHours, minutes, isMinutes, seconds, isSeconds, first, isFirst,
      second, isSecond, isSum⟩
    rw [isDays, isHours, ← Int.add_mul] at isFirst
    rw [isFirst, isMinutes, ← Int.add_mul] at isSecond
    rw [isSecond, isSeconds, ← Int.add_mul] at isSum
    refine ⟨⟨?_, ?_⟩, isSum⟩
    · simp only [Parts.inSeconds, List.forall_mem_cons, ← isDays, ← isHours, ← isMinutes,
        ← isSeconds]
      exact ⟨days.isDuration, hours.isDuration, minutes.isDuration, seconds.isDuration,
        List.forall_mem_nil _⟩
    · simp only [Parts.sums, Parts.total, List.forall_mem_cons, ← isFirst, ← isSecond, ← isSum]
      exact ⟨first.isDuration, second.isDuration, duration.isDuration, List.forall_mem_nil _⟩
  · rintro ⟨⟨part, sum⟩, isTotal⟩
    simp only [Parts.inSeconds, Parts.sums, List.forall_mem_cons] at part sum
    rcases part with ⟨days, hours, minutes, seconds, _⟩
    rcases sum with ⟨first, second, _, _⟩
    exact ⟨⟨_, days⟩, rfl, ⟨_, hours⟩, rfl, ⟨_, minutes⟩, rfl, ⟨_, seconds⟩, rfl, ⟨_, first⟩,
      Int.add_mul .., ⟨_, second⟩, Int.add_mul .., by rw [isTotal, Parts.total, Int.add_mul]⟩

/-! ## Layouts -/

section

variable (Numeral : List Char → Int → Prop)

/-- That a text is `h:m:s` for three numbers, of which the last two are below sixty. -/
inductive IsClock : List Char → Int → Int → Int → Prop
  | colons {first second third : List Char} {hours minutes seconds : Int}
      (isHours : Numeral first hours) (isMinutes : Numeral second minutes)
      (isSeconds : Numeral third seconds) (minutes_lt : minutes < 60) (seconds_lt : seconds < 60) :
      IsClock (first ++ ':' :: (second ++ ':' :: third)) hours minutes seconds

/-- That a text is `[d.]h:m:s` for the parts of a duration. -/
inductive IsBody : List Char → Parts → Prop
  | clock {text : List Char} {hours minutes seconds : Int}
      (clock : IsClock Numeral text hours minutes seconds) :
      IsBody text ⟨0, hours, minutes, seconds⟩
  | days {front text : List Char} {days hours minutes seconds : Int} (isDays : Numeral front days)
      (clock : IsClock Numeral text hours minutes seconds) :
      IsBody (front ++ '.' :: text) ⟨days, hours, minutes, seconds⟩

/-- That a text without the blanks around it is `[-][d.]h:m:s` and means a duration: the sum of its
parts, which is negative just behind the minus sign. -/
inductive IsText (text : List Char) (duration : Duration) : Prop
  | plus {parts : Parts} (noSign : (trim text).head? ≠ some '-')
      (layout : IsBody Numeral (trim text) parts) (inRange : parts.InRange)
      (sum : duration.nanoseconds = parts.total * nanosecondsPerSecond)
  | minus {rest : List Char} {parts : Parts} (sign : trim text = '-' :: rest)
      (layout : IsBody Numeral rest parts) (inRange : parts.InRange)
      (sum : duration.nanoseconds = -(parts.total * nanosecondsPerSecond))

end

section

variable {First Second : List Char → Int → Prop} {text : List Char}

theorem IsClock.imp {hours minutes seconds : Int} (clock : IsClock First text hours minutes seconds)
    (implies : ∀ piece number, piece ⊆ text → number ∈ [hours, minutes, seconds] →
      First piece number → Second piece number) :
    IsClock Second text hours minutes seconds := by
  rcases clock with ⟨isHours, isMinutes, isSeconds, minutes_lt, seconds_lt⟩
  refine ⟨implies _ _ ?_ ?_ isHours, implies _ _ ?_ ?_ isMinutes, implies _ _ ?_ ?_ isSeconds,
    minutes_lt, seconds_lt⟩
  all_goals grind

theorem IsBody.imp {parts : Parts} (body : IsBody First text parts)
    (implies : ∀ piece number, piece ⊆ text → number ∈ parts.numbers → First piece number →
      Second piece number) :
    IsBody Second text parts := by
  cases body with
  | clock clock =>
    exact .clock (clock.imp fun piece number inside member =>
      implies piece number inside (List.mem_cons_of_mem _ member))
  | days isDays clock =>
    refine .days (implies _ _ (List.subset_append_left ..) (List.mem_cons_self ..) isDays)
      (clock.imp fun piece number inside member => ?_)
    refine implies piece number (fun char isIn => ?_) (List.mem_cons_of_mem _ member)
    exact List.mem_append_right _ (List.mem_cons_of_mem _ (inside isIn))

theorem IsClock.notMem {hours minutes seconds : Int}
    (clock : IsClock First text hours minutes seconds) {char : Char}
    (absent : ∀ piece number, First piece number → char ∉ piece) (noColon : char ≠ ':') :
    char ∉ text := by
  rcases clock with ⟨isHours, isMinutes, isSeconds, _, _⟩
  simp only [List.mem_append, List.mem_cons, not_or]
  exact ⟨absent _ _ isHours, noColon, absent _ _ isMinutes, noColon, absent _ _ isSeconds⟩

theorem IsBody.notMem {parts : Parts} (body : IsBody First text parts) {char : Char}
    (absent : ∀ piece number, First piece number → char ∉ piece) (noMark : char ≠ ':' ∧ char ≠ '.') :
    char ∉ text := by
  cases body with
  | clock clock => exact clock.notMem absent noMark.1
  | days isDays clock =>
    simp only [List.mem_append, List.mem_cons, not_or]
    exact ⟨absent _ _ isDays, noMark.2, clock.notMem absent noMark.1⟩

end

/-! ## Reading -/

def IsWord (text : List Char) (number : Int) : Prop :=
  ∃ word, readInt64? text = some word ∧ word.toInt = number

theorem isWord_iff {text : List Char} {number : Int} :
    IsWord text number ↔ Signed text number ∧ -2 ^ 63 ≤ number ∧ number < 2 ^ 63 := by
  simp only [IsWord, readInt64?_eq_some_iff]
  constructor
  · rintro ⟨word, signed, rfl⟩
    exact ⟨signed, word.le_toInt, word.toInt_lt⟩
  · rintro ⟨signed, lower, upper⟩
    rcases int64?_eq lower upper with ⟨word, _, rfl⟩
    exact ⟨word, signed, rfl⟩

theorem IsWord.notMem {text : List Char} {number : Int} (word : IsWord text number) {char : Char}
    (noDigit : char.isDigit = false) (noSign : char ≠ '+' ∧ char ≠ '-') : char ∉ text :=
  (isWord_iff.mp word).1.notMem noDigit noSign

theorem readClock?_eq_some_iff {text : List Char} {hours minutes seconds : Int} :
    readClock? text = some (hours, minutes, seconds) ↔
      IsClock IsWord text hours minutes seconds := by
  constructor
  · intro read
    rw [readClock?] at read
    rcases Option.bind_eq_some_iff.mp read with ⟨⟨first, rest⟩, cutHours, read⟩
    rcases Option.bind_eq_some_iff.mp read with ⟨⟨second, third⟩, cutMinutes, read⟩
    dsimp only at read
    split at read
    case isTrue => cases read
    case isFalse =>
      rcases Option.bind_eq_some_iff.mp read with ⟨hourWord, hourRead, read⟩
      rcases Option.bind_eq_some_iff.mp read with ⟨minuteWord, minuteRead, read⟩
      rcases Option.bind_eq_some_iff.mp read with ⟨secondWord, secondRead, read⟩
      split at read
      case isTrue => cases read
      case isFalse below =>
        cases read
        rw [not_or, Int.not_le, Int.not_le] at below
        rcases cutAt?_eq_some_iff.mp cutHours with ⟨rfl, _⟩
        rcases cutAt?_eq_some_iff.mp cutMinutes with ⟨rfl, _⟩
        exact ⟨⟨hourWord, hourRead, rfl⟩, ⟨minuteWord, minuteRead, rfl⟩,
          ⟨secondWord, secondRead, rfl⟩, below.1, below.2⟩
  · rintro ⟨isHours, isMinutes, isSeconds, minutes_lt, seconds_lt⟩
    have noColon {piece : List Char} {number : Int} (word : IsWord piece number) : ':' ∉ piece :=
      word.notMem rfl (by decide)
    have noHourColon := noColon isHours
    have noMinuteColon := noColon isMinutes
    have noSecondColon := noColon isSeconds
    rcases isHours with ⟨hourWord, hourRead, rfl⟩
    rcases isMinutes with ⟨minuteWord, minuteRead, rfl⟩
    rcases isSeconds with ⟨secondWord, secondRead, rfl⟩
    have below : ¬ (60 ≤ minuteWord.toInt ∨ 60 ≤ secondWord.toInt) := by omega
    simp only [readClock?, Option.bind_eq_bind, Option.bind_some, cutAt?_append noHourColon,
      cutAt?_append noMinuteColon, cutAt?_of_notMem noSecondColon, Option.isSome_none,
      Bool.false_eq_true, if_false, hourRead, minuteRead, secondRead, if_neg below]

theorem readUnsigned?_eq_some_iff {text : List Char} {duration : Duration} :
    readUnsigned? text = some duration ↔ ∃ parts, IsBody Signed text parts ∧ parts.InRange ∧
      duration.nanoseconds = parts.total * nanosecondsPerSecond := by
  constructor
  · intro read
    rw [readUnsigned?] at read
    have signed {parts : Parts} (body : IsBody IsWord text parts) : IsBody Signed text parts :=
      body.imp fun _ _ _ _ word => (isWord_iff.mp word).1
    split at read
    case h_1 front rest cut =>
      rcases Option.bind_eq_some_iff.mp read with ⟨days, dayRead, read⟩
      rcases Option.bind_eq_some_iff.mp read with ⟨⟨hours, minutes, seconds⟩, clockRead, sum⟩
      rcases cutAt?_eq_some_iff.mp cut with ⟨rfl, _⟩
      have body := signed (.days ⟨days, dayRead, rfl⟩ (readClock?_eq_some_iff.mp clockRead))
      exact ⟨_, body, ofClock?_eq_some_iff.mp sum⟩
    case h_2 =>
      rcases Option.bind_eq_some_iff.mp read with ⟨⟨hours, minutes, seconds⟩, clockRead, sum⟩
      have body := signed (.clock (readClock?_eq_some_iff.mp clockRead))
      exact ⟨_, body, ofClock?_eq_some_iff.mp sum⟩
  · rintro ⟨parts, body, inRange, isSum⟩
    have added := ofClock?_eq_some_iff.mpr ⟨inRange, isSum⟩
    have words : IsBody IsWord text parts := body.imp fun _ number _ member signed =>
      isWord_iff.mpr ⟨signed, inRange.isWord number member⟩
    cases words with
    | clock clock =>
      have noPoint : '.' ∉ text :=
        clock.notMem (fun _ _ word => word.notMem rfl (by decide)) (by decide)
      rw [readUnsigned?_of_noPoint noPoint, readClock?_eq_some_iff.mpr clock]
      exact added
    | @days front _ _ _ _ _ isDays clock =>
      have noPoint : '.' ∉ front := isDays.notMem rfl (by decide)
      rcases isDays with ⟨word, dayRead, rfl⟩
      simp only [readUnsigned?, cutAt?_append noPoint, Option.bind_eq_bind, dayRead,
        Option.bind_some, readClock?_eq_some_iff.mpr clock]
      exact added

/-! ## Signs -/

theorem read?_eq_some_iff {text : List Char} {duration : Duration} :
    read? text = some duration ↔ IsText Signed text duration := by
  rw [read?]
  split
  case h_1 rest sign =>
    have opposite (total : Int) :
        duration.neg.nanoseconds = total ↔ duration.nanoseconds = -total := by
      simp only [neg]
      omega
    have negated : (readUnsigned? rest).map neg = some duration ↔
        readUnsigned? rest = some duration.neg := by
      rw [Option.map_eq_some_iff]
      constructor
      · rintro ⟨other, read, rfl⟩
        rw [neg_neg, read]
      · exact fun read => ⟨duration.neg, read, neg_neg duration⟩
    rw [negated, readUnsigned?_eq_some_iff]
    constructor
    · rintro ⟨parts, layout, inRange, sum⟩
      exact .minus sign layout inRange ((opposite _).mp sum)
    · rintro (⟨noSign, _⟩ | ⟨sign', layout, inRange, sum⟩)
      · exact absurd (congrArg List.head? sign) noSign
      · cases sign.symm.trans sign'
        exact ⟨_, layout, inRange, (opposite _).mpr sum⟩
  case h_2 noMinus =>
    rw [readUnsigned?_eq_some_iff]
    constructor
    · rintro ⟨parts, layout, inRange, sum⟩
      refine .plus (fun isFirst => ?_) layout inRange sum
      rcases List.head?_eq_some_iff.mp isFirst with ⟨rest, sign⟩
      exact noMinus rest sign
    · rintro (⟨_, layout, inRange, sum⟩ | ⟨sign, _⟩)
      · exact ⟨_, layout, inRange, sum⟩
      · exact absurd sign (noMinus _)

theorem isBody_unsigned_iff {text : List Char} {parts : Parts} :
    IsBody Unsigned text parts ↔ IsBody Signed text parts ∧ '+' ∉ text ∧ '-' ∉ text := by
  constructor
  · intro body
    exact ⟨body.imp fun _ _ _ _ => .plain,
      body.notMem (fun _ _ digits => digits.notMem rfl) (by decide),
      body.notMem (fun _ _ digits => digits.notMem rfl) (by decide)⟩
  · rintro ⟨body, noPlus, noMinus⟩
    exact body.imp fun piece _ inside _ numeral =>
      numeral.unsigned (fun member => noPlus (inside member)) fun member => noMinus (inside member)

theorem isText_unsigned_iff {text : List Char} {duration : Duration} :
    IsText Unsigned text duration ↔
      IsText Signed text duration ∧ '+' ∉ trim text ∧ '-' ∉ (trim text).tail := by
  constructor
  · rintro (⟨noSign, layout, inRange, sum⟩ | ⟨sign, layout, inRange, sum⟩)
    all_goals rcases isBody_unsigned_iff.mp layout with ⟨signed, noPlus, noMinus⟩
    · exact ⟨.plus noSign signed inRange sum, noPlus, fun member =>
        noMinus (List.mem_of_mem_tail member)⟩
    · refine ⟨.minus sign signed inRange sum, ?_, ?_⟩ <;> rw [sign]
      · exact List.not_mem_cons_of_ne_of_not_mem (by decide) noPlus
      · exact noMinus
  · rintro ⟨⟨noSign, layout, inRange, sum⟩ | ⟨sign, layout, inRange, sum⟩, noPlus, noMinus⟩
    · have noOther : '-' ∉ trim text := by
        cases body : trim text with
        | nil => exact List.not_mem_nil
        | cons first rest =>
          rw [body] at noSign noMinus
          exact List.not_mem_cons_of_ne_of_not_mem (fun same => noSign (same ▸ rfl)) noMinus
      exact .plus noSign (isBody_unsigned_iff.mpr ⟨layout, noPlus, noOther⟩) inRange sum
    · rw [sign] at noPlus noMinus
      have unsigned := isBody_unsigned_iff.mpr
        ⟨layout, fun member => noPlus (List.mem_cons_of_mem _ member), noMinus⟩
      exact .minus sign unsigned inRange sum

/-- A text is read as the duration that it means when each of its numbers may have a sign. Those of
the texts that are read which follow the layout, with numbers without signs, are the ones that have
no sign but a minus sign in front. -/
theorem read?_exact (text : List Char) (duration : Duration) :
    (read? text = some duration ↔ IsText Signed text duration) ∧
      (IsText Unsigned text duration ↔
        read? text = some duration ∧ '+' ∉ trim text ∧ '-' ∉ (trim text).tail) := by
  refine ⟨read?_eq_some_iff, ?_⟩
  rw [read?_eq_some_iff, isText_unsigned_iff]

/-- The minutes have a sign of their own, and so the duration is negative without a sign in front. -/
theorem read?_signed_minutes :
    ∃ duration : Duration, read? "0:-5:00".toList = some duration ∧
      duration.nanoseconds = -300 * nanosecondsPerSecond ∧
      ¬ ∃ other, IsText Unsigned "0:-5:00".toList other := by
  refine ⟨⟨-300 * nanosecondsPerSecond, by decide⟩, by decide +kernel, rfl, ?_⟩
  rintro ⟨other, isText⟩
  have noMinus := (isText_unsigned_iff.mp isText).2.2
  exact absurd noMinus (by decide)

end Proviso.Calendar.Duration
