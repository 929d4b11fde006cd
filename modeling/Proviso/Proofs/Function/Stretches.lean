import Proviso.Function.Builtin.Texts
import Proviso.Text.Offset

/-!
Stretches of texts. A text has fewer than 2^63 bytes, so that its length and the end of every
stretch that is asked for are words of 64 bits. Where a text is cut at one place, its start and its
end make up the text again, and every stretch of a text is found in it.
-/

namespace Proviso

theorem Text.occursIn_append (before part after : List Char) :
    occursIn part (before ++ part ++ after) = true := by
  have starts : part.isPrefixOf (part ++ after) = true :=
    List.isPrefixOf_iff_prefix.mpr (List.prefix_append part after)
  induction before with
  | nil =>
    rw [List.nil_append]
    cases whole : part ++ after with
    | nil =>
      rw [(List.append_eq_nil_iff.mp whole).1]
      rfl
    | cons char rest =>
      rw [whole] at starts
      rw [occursIn, starts, Bool.true_or]
  | cons char before induction =>
    rw [List.cons_append, List.cons_append, occursIn, induction, Bool.or_true]

namespace Builtin

/-! ## Words -/

/-- Positions that are words with a sign have a sum that is a word without one. -/
theorem stretchEnd_eq {start count : Nat} (startFits : start < 2 ^ 63) (countFits : count < 2 ^ 63) :
    stretchEnd start count = start + count := by
  rw [stretchEnd, UInt64.toNat_add, UInt64.toNat_ofNat', UInt64.toNat_ofNat']
  omega

theorem toNat_toInt_lt (word : Int64) : word.toInt.toNat < 2 ^ 63 := by
  have bound := word.toInt_lt
  omega

/-! ## Calls -/

def stretch (moment : Calendar.Moment) (text : String) (start count : Int64) : Except Fault Value :=
  substringOfLength.invoke moment [.string text, .int start, .int count]

def remainder (moment : Calendar.Moment) (text : String) (start : Int64) : Except Fault Value :=
  substring.invoke moment [.string text, .int start]

section

variable {text : String} {start count : Int64}

theorem substringOf_three : substringOf [.string text, .int start, .int count] =
    if start.toInt < 0 ∨ (text.toList.length : Int) < start.toInt then
      .error (.substringStart start.toInt text.toList.length)
    else if count.toInt < 0 ∨
        text.toList.length < stretchEnd start.toInt.toNat count.toInt.toNat then
      .error (.substringLength count.toInt start.toInt.toNat text.toList.length)
    else
      .ok (.string (.ofList ((text.toList.drop start.toInt.toNat).take count.toInt.toNat))) :=
  rfl

theorem substringOf_two : substringOf [.string text, .int start] =
    if start.toInt < 0 ∨ (text.toList.length : Int) < start.toInt then
      .error (.substringStart start.toInt text.toList.length)
    else .ok (.string (.ofList (text.toList.drop start.toInt.toNat))) :=
  rfl

variable (moment : Calendar.Moment)

theorem stretch_of_inside (startPositive : 0 ≤ start.toInt) (countPositive : 0 ≤ count.toInt)
    (inside : start.toInt + count.toInt ≤ text.toList.length) :
    stretch moment text start count =
      .ok (.string (.ofList ((text.toList.drop start.toInt.toNat).take count.toInt.toNat))) := by
  have ends := stretchEnd_eq (toNat_toInt_lt start) (toNat_toInt_lt count)
  change (substringOf [.string text, .int start, .int count]).mapError _ = _
  rw [substringOf_three, if_neg (by omega), if_neg (by omega)]
  rfl

theorem inside_of_stretch {part : Value} (cut : stretch moment text start count = .ok part) :
    0 ≤ start.toInt ∧ 0 ≤ count.toInt ∧ start.toInt + count.toInt ≤ text.toList.length := by
  have ends := stretchEnd_eq (toNat_toInt_lt start) (toNat_toInt_lt count)
  change (substringOf [.string text, .int start, .int count]).mapError _ = _ at cut
  rw [substringOf_three] at cut
  split at cut
  case isTrue => cases cut
  case isFalse =>
    split at cut
    case isTrue => cases cut
    case isFalse => omega

theorem remainder_of_inside (positive : 0 ≤ start.toInt)
    (inside : start.toInt ≤ text.toList.length) :
    remainder moment text start =
      .ok (.string (.ofList (text.toList.drop start.toInt.toNat))) := by
  change (substringOf [.string text, .int start]).mapError _ = _
  rw [substringOf_two, if_neg (by omega)]
  rfl

theorem inside_of_remainder {part : Value} (cut : remainder moment text start = .ok part) :
    0 ≤ start.toInt ∧ start.toInt ≤ text.toList.length := by
  change (substringOf [.string text, .int start]).mapError _ = _ at cut
  rw [substringOf_two] at cut
  split at cut
  case isTrue => cases cut
  case isFalse => omega

/-- Without a length a stretch is as with the length of what is left of the text, also where its
start is refused. -/
theorem remainder_eq_stretch
    (whole : count.toInt = text.toList.length - start.toInt) :
    remainder moment text start = stretch moment text start count := by
  by_cases outside : start.toInt < 0 ∨ (text.toList.length : Int) < start.toInt
  · change (substringOf [.string text, .int start]).mapError _ =
      (substringOf [.string text, .int start, .int count]).mapError _
    rw [substringOf_two, substringOf_three, if_pos outside, if_pos outside]
  · have all : (text.toList.drop start.toInt.toNat).take count.toInt.toNat =
        text.toList.drop start.toInt.toNat := by
      apply List.take_of_length_le
      rw [List.length_drop]
      omega
    rw [remainder_of_inside moment (by omega) (by omega),
      stretch_of_inside moment (by omega) (by omega) (by omega), all]

end

/-! ## Laws -/

structure CutsLawfully (moment : Calendar.Moment) (text : String) (total : Int64) : Prop where
  hasLength : total.toInt = text.toList.length ∧
    length.invoke moment [.string text] = .ok (.int total)
  /-- The sum that is compared with the length does not wrap. -/
  sum {start count : Int64} (startPositive : 0 ≤ start.toInt) (countPositive : 0 ≤ count.toInt) :
    (stretchEnd start.toInt.toNat count.toInt.toNat : Int) = start.toInt + count.toInt
  stretches (start count : Int64) :
    (∃ part, stretch moment text start count = .ok part) ↔
      0 ≤ start.toInt ∧ 0 ≤ count.toInt ∧ start.toInt + count.toInt ≤ total.toInt
  remains (start : Int64) :
    (∃ part, remainder moment text start = .ok part) ↔
      0 ≤ start.toInt ∧ start.toInt ≤ total.toInt
  whole {start count : Int64} (isRest : count.toInt = total.toInt - start.toInt) :
    remainder moment text start = stretch moment text start count
  /-- A stretch is as long as asked for, and occurs in the text. -/
  part {start count : Int64} {part : Value} (cut : stretch moment text start count = .ok part) :
    length.invoke moment [part] = .ok (.int count) ∧
      contains.invoke moment [.string text, part] = .ok (.bool true)
  /-- What is in front of a place and what is behind it. -/
  split {place : Int64} (positive : 0 ≤ place.toInt) (inside : place.toInt ≤ total.toInt) :
    ∃ front back, stretch moment text 0 place = .ok front ∧
      remainder moment text place = .ok back ∧
      concat.invoke moment [front, back] = .ok (.string text) ∧
      startsWith.invoke moment [.string text, front] = .ok (.bool true) ∧
      endsWith.invoke moment [.string text, back] = .ok (.bool true)

section

variable (moment : Calendar.Moment) {text part front back : String}

theorem invoke_length {total : Int64} (counted : total.toInt = text.toList.length) :
    length.invoke moment [.string text] = .ok (.int total) := by
  have same : Int64.ofNat text.toList.length = total := by
    rw [← Int64.ofInt_eq_ofNat, ← counted, Int64.ofInt_toInt]
  exact congrArg (fun word => Except.ok (Value.int word)) same

theorem invoke_contains {before after : List Char}
    (isText : text.toList = before ++ part.toList ++ after) :
    contains.invoke moment [.string text, .string part] = .ok (.bool true) := by
  have occurs : Text.occursIn part.toList text.toList = true := by
    rw [isText]
    exact Text.occursIn_append before part.toList after
  exact congrArg (fun found => Except.ok (Value.bool found)) occurs

theorem invoke_startsWith (isText : text.toList = front.toList ++ back.toList) :
    startsWith.invoke moment [.string text, .string front] = .ok (.bool true) := by
  have starts : front.toList.isPrefixOf text.toList = true :=
    List.isPrefixOf_iff_prefix.mpr ⟨back.toList, isText.symm⟩
  exact congrArg (fun found => Except.ok (Value.bool found)) starts

theorem invoke_endsWith (isText : text.toList = front.toList ++ back.toList) :
    endsWith.invoke moment [.string text, .string back] = .ok (.bool true) := by
  have ends : back.toList.isSuffixOf text.toList = true :=
    List.isSuffixOf_iff_suffix.mpr ⟨front.toList, isText.symm⟩
  exact congrArg (fun found => Except.ok (Value.bool found)) ends

theorem invoke_concat (isText : text.toList = front.toList ++ back.toList) :
    concat.invoke moment [.string front, .string back] = .ok (.string text) := by
  have joined : String.ofList (front.toList ++ (back.toList ++ [])) = text := by
    rw [List.append_nil, ← isText, String.ofList_toList]
  exact congrArg (fun text => Except.ok (Value.string text)) joined

end

/-- Texts are cut lawfully, at every moment. -/
theorem cutsLawfully (moment : Calendar.Moment) {text : String}
    (fits : Text.byteLength text.toList < 2 ^ 63) :
    CutsLawfully moment text (Int64.ofNat text.toList.length) := by
  have short : text.toList.length < 2 ^ 63 :=
    Nat.lt_of_le_of_lt (Text.length_le_byteLength text.toList) fits
  have counted : (Int64.ofNat text.toList.length).toInt = text.toList.length :=
    Int64.toInt_ofNat_of_lt short
  constructor
  case hasLength => exact ⟨counted, invoke_length moment counted⟩
  case sum =>
    intro start count startPositive countPositive
    rw [stretchEnd_eq (toNat_toInt_lt start) (toNat_toInt_lt count)]
    omega
  case stretches =>
    intro start count
    rw [counted]
    constructor
    · intro ⟨part, cut⟩
      exact inside_of_stretch moment cut
    · intro ⟨startPositive, countPositive, inside⟩
      exact ⟨_, stretch_of_inside moment startPositive countPositive inside⟩
  case remains =>
    intro start
    rw [counted]
    constructor
    · intro ⟨part, cut⟩
      exact inside_of_remainder moment cut
    · intro ⟨positive, inside⟩
      exact ⟨_, remainder_of_inside moment positive inside⟩
  case whole =>
    intro start count isRest
    rw [counted] at isRest
    exact remainder_eq_stretch moment isRest
  case part =>
    intro start count part cut
    obtain ⟨startPositive, countPositive, inside⟩ := inside_of_stretch moment cut
    rw [stretch_of_inside moment startPositive countPositive inside, Except.ok.injEq] at cut
    subst cut
    constructor
    · apply invoke_length
      rw [String.toList_ofList, List.length_take, List.length_drop]
      omega
    · have isText : text.toList = text.toList.take start.toInt.toNat ++
          (text.toList.drop start.toInt.toNat).take count.toInt.toNat ++
            (text.toList.drop start.toInt.toNat).drop count.toInt.toNat := by
        rw [List.append_assoc, List.take_append_drop, List.take_append_drop]
      apply invoke_contains moment
      rwa [String.toList_ofList]
  case split =>
    intro place positive inside
    rw [counted] at inside
    have isText : text.toList = (String.ofList (text.toList.take place.toInt.toNat)).toList ++
        (String.ofList (text.toList.drop place.toInt.toNat)).toList := by
      rw [String.toList_ofList, String.toList_ofList, List.take_append_drop]
    have isFront : stretch moment text 0 place =
        .ok (.string (.ofList (text.toList.take place.toInt.toNat))) :=
      stretch_of_inside moment (Int.le_refl 0) positive ((Int.zero_add _).symm ▸ inside)
    exact ⟨_, _, isFront, remainder_of_inside moment positive inside, invoke_concat moment isText,
      invoke_startsWith moment isText, invoke_endsWith moment isText⟩

theorem cutsLawfully_accents :
    Text.byteLength "zażółć".toList < 2 ^ 63 ∧
      CutsLawfully (.midnight ⟨2024, 1, 1, by decide⟩) "zażółć" 6 ∧
      stretch (.midnight ⟨2024, 1, 1, by decide⟩) "zażółć" 2 3 = .ok (.string "żół") := by
  have fits : Text.byteLength "zażółć".toList < 2 ^ 63 := by decide
  have counted : Int64.ofNat "zażółć".toList.length = 6 := by decide
  have cut : String.ofList (("zażółć".toList.drop 2).take 3) = "żół" := by decide
  have lawful := cutsLawfully (.midnight ⟨2024, 1, 1, by decide⟩) fits
  rw [counted] at lawful
  refine ⟨fits, lawful, ?_⟩
  rw [stretch_of_inside _ (by decide) (by decide) (by decide)]
  exact congrArg (fun text => Except.ok (Value.string text)) cut

end Builtin

end Proviso
