import Mathlib.Computability.Language
import Proviso.Proofs.Pattern.Exploration

/-!
The language of a pattern: the words that it takes. A pattern without assertions does not look at
what stands around a word, so it takes a stretch of a text exactly if the stretch is a word of its
language. Put between the start and the end of a text, such patterns match exactly if the whole text
is a word of each of them, one after the other.
-/

namespace Proviso.Pattern

def isPlain : Pattern → Bool
  | .empty | .oneOf _ => true
  | .assertion _ => false
  | .sequence first second | .choice first second => first.isPlain && second.isPlain
  | .group body | .repeated body _ _ _ => body.isPlain

/-- The words of a pattern. Of an assertion this says only that it takes no character, not where it
holds. -/
def language : Pattern → Language Char
  | .empty | .assertion _ => 1
  | .oneOf set => {word | ∃ char, set.contains char = true ∧ [char] = word}
  | .sequence first second => first.language * second.language
  | .choice first second => first.language + second.language
  | .group body => body.language
  | .repeated body least most _ =>
    {word | ∃ count, (least ≤ count ∧ ∀ limit ∈ most, count ≤ max least limit) ∧
      word ∈ body.language ^ count}

theorem language_ofParts (parts : List Pattern) :
    (ofParts parts).language = (parts.map language).prod := by
  induction parts with
  | nil => rfl
  | cons part rest induction =>
    rw [List.map_cons, List.prod_cons, ← induction]
    cases rest with
    | nil => exact (mul_one _).symm
    | cons => rfl

theorem isPlain_ofParts {parts : List Pattern} (plain : ∀ part ∈ parts, part.isPlain = true) :
    (ofParts parts).isPlain = true := by
  induction parts with
  | nil => rfl
  | cons part rest induction =>
    obtain ⟨first, others⟩ := List.forall_mem_cons.mp plain
    cases rest with
    | nil => exact first
    | cons => exact Bool.and_eq_true_iff.mpr ⟨first, induction others⟩

/-! ## Repetition -/

theorem mem_pow_oneOf {set : CharClass} {count : Nat} {word : List Char} :
    word ∈ (oneOf set).language ^ count ↔
      word.length = count ∧ ∀ char ∈ word, set.contains char = true := by
  induction count generalizing word with
  | zero =>
    rw [pow_zero, Language.mem_one, List.length_eq_zero_iff]
    constructor
    · intro isEmpty
      subst isEmpty
      exact ⟨rfl, nofun⟩
    · exact And.left
  | succ count induction =>
    rw [pow_succ', Language.mem_mul]
    constructor
    · intro ⟨_, ⟨char, holds, isFirst⟩, rest, isRest, joined⟩
      subst isFirst joined
      obtain ⟨length, others⟩ := induction.mp isRest
      exact ⟨congrArg (· + 1) length, List.forall_mem_cons.mpr ⟨holds, others⟩⟩
    · intro ⟨length, all⟩
      cases word with
      | nil => cases length
      | cons char rest =>
        obtain ⟨holds, others⟩ := List.forall_mem_cons.mp all
        have rest := induction.mpr ⟨Nat.succ.inj length, others⟩
        exact ⟨[char], ⟨char, holds, rfl⟩, _, rest, rfl⟩

theorem mem_language_repeated_oneOf {set : CharClass} {least : Nat} {greedy : Bool}
    {word : List Char} :
    word ∈ (repeated (oneOf set) least none greedy).language ↔
      least ≤ word.length ∧ ∀ char ∈ word, set.contains char = true := by
  constructor
  · intro ⟨count, ⟨enough, _⟩, isWord⟩
    obtain ⟨length, all⟩ := mem_pow_oneOf.mp isWord
    exact ⟨length ▸ enough, all⟩
  · intro ⟨enough, all⟩
    exact ⟨word.length, ⟨enough, nofun⟩, mem_pow_oneOf.mpr ⟨rfl, all⟩⟩

theorem mem_language_optional {body : Pattern} {greedy : Bool} {word : List Char} :
    word ∈ (repeated body 0 (some 1) greedy).language ↔ word = [] ∨ word ∈ body.language := by
  constructor
  · intro ⟨count, ⟨_, limited⟩, isWord⟩
    have bound : count ≤ 1 := limited 1 rfl
    obtain none | once := Nat.le_one_iff_eq_zero_or_eq_one.mp bound
    · subst none
      exact .inl ((Language.mem_one word).mp isWord)
    · subst once
      rw [pow_one] at isWord
      exact .inr isWord
  · intro isWord
    cases isWord with
    | inl isEmpty => exact ⟨0, ⟨Nat.le_refl _, by simp⟩, (Language.mem_one word).mpr isEmpty⟩
    | inr isWord => exact ⟨1, ⟨Nat.zero_le _, by simp⟩, by rwa [pow_one]⟩

/-! ## Words in a text -/

/-- Whether exactly the words of a language are taken, from each place of a text on. -/
def TakesWords (text : List Char) (takes : Nat → Nat → Prop) (words : Language Char) : Prop :=
  ∀ before rest, before ++ rest = text → ∀ stop, takes before.length stop ↔
    ∃ word ∈ words, ∃ after, word ++ after = rest ∧ (before ++ word).length = stop

namespace TakesWords

variable {text : List Char} {takes further : Nat → Nat → Prop} {words others : Language Char}

theorem nothing : TakesWords text (fun start stop => start = stop) 1 := by
  intro before rest _ stop
  constructor
  · intro same
    refine ⟨[], Language.nil_mem_one, rest, rfl, ?_⟩
    rwa [List.append_nil]
  · intro ⟨word, isEmpty, _, _, reaches⟩
    rwa [(Language.mem_one word).mp isEmpty, List.append_nil] at reaches

theorem character (set : CharClass) :
    TakesWords text ((oneOf set).Takes text) (oneOf set).language := by
  intro before rest whole stop
  subst whole
  simp only [Takes, List.getElem?_append_right (Nat.le_refl _), Nat.sub_self]
  constructor
  · intro taken
    obtain ⟨reaches, char, isNext, taken⟩ := taken
    obtain ⟨after, isRest⟩ := List.head?_eq_some_iff.mp (List.head?_eq_getElem?.trans isNext)
    exact ⟨[char], ⟨char, taken, rfl⟩, after, isRest.symm, by simpa using reaches⟩
  · intro cut
    obtain ⟨word, ⟨char, taken, isWord⟩, after, isRest, reaches⟩ := cut
    subst isWord isRest
    exact ⟨by simpa using reaches, char, rfl, taken⟩

theorem trans (first : TakesWords text takes words) (second : TakesWords text further others) :
    TakesWords text (fun start stop => ∃ middle, takes start middle ∧ further middle stop)
      (words * others) := by
  intro before rest whole stop
  constructor
  · intro ⟨middle, taken, takenNext⟩
    obtain ⟨word, isWord, behind, isRest, reaches⟩ := (first before rest whole middle).mp taken
    subst isRest reaches
    rw [← List.append_assoc] at whole
    obtain ⟨next, isNext, after, isBehind, reaches⟩ :=
      (second (before ++ word) behind whole stop).mp takenNext
    refine ⟨word ++ next, Language.append_mem_mul isWord isNext, after, ?_, ?_⟩
    · rw [List.append_assoc, isBehind]
    · rwa [← List.append_assoc]
  · intro ⟨both, isBoth, after, isRest, reaches⟩
    obtain ⟨word, isWord, next, isNext, joined⟩ := Language.mem_mul.mp isBoth
    subst joined isRest
    rw [List.append_assoc] at whole
    rw [← List.append_assoc] at reaches
    refine ⟨(before ++ word).length, ?_, ?_⟩
    · apply (first before _ ?_ _).mpr
      · exact ⟨word, isWord, next ++ after, (List.append_assoc ..).symm, rfl⟩
      · rwa [List.append_assoc]
    · apply (second (before ++ word) (next ++ after) ?_ stop).mpr
      · exact ⟨next, isNext, after, rfl, reaches⟩
      · rwa [List.append_assoc]

theorem either (first : TakesWords text takes words) (second : TakesWords text further others) :
    TakesWords text (fun start stop => takes start stop ∨ further start stop) (words + others) := by
  intro before rest whole stop
  have inFirst := first before rest whole stop
  have inSecond := second before rest whole stop
  constructor
  · intro taken
    cases taken with
    | inl taken =>
      obtain ⟨word, isWord, cut⟩ := inFirst.mp taken
      exact ⟨word, .inl isWord, cut⟩
    | inr taken =>
      obtain ⟨word, isWord, cut⟩ := inSecond.mp taken
      exact ⟨word, .inr isWord, cut⟩
  · intro ⟨word, isWord, cut⟩
    cases isWord with
    | inl isWord => exact .inl (inFirst.mpr ⟨word, isWord, cut⟩)
    | inr isWord => exact .inr (inSecond.mpr ⟨word, isWord, cut⟩)

theorem stretches (each : TakesWords text takes words) (count : Nat) :
    TakesWords text (Stretches takes count) (words ^ count) := by
  induction count with
  | zero => exact nothing
  | succ count induction =>
    rw [pow_succ']
    exact each.trans induction

theorem repetitions (each : TakesWords text takes words) (allowed : Nat → Prop) :
    TakesWords text (fun start stop => ∃ count, allowed count ∧ Stretches takes count start stop)
      {word | ∃ count, allowed count ∧ word ∈ words ^ count} := by
  intro before rest whole stop
  constructor
  · intro ⟨count, isAllowed, taken⟩
    obtain ⟨word, isWord, cut⟩ := (each.stretches count before rest whole stop).mp taken
    exact ⟨word, ⟨count, isAllowed, isWord⟩, cut⟩
  · intro ⟨word, ⟨count, isAllowed, isWord⟩, cut⟩
    exact ⟨count, isAllowed, (each.stretches count before rest whole stop).mpr ⟨word, isWord, cut⟩⟩

end TakesWords

theorem takesWords {pattern : Pattern} (plain : pattern.isPlain = true) (text : List Char) :
    TakesWords text (pattern.Takes text) pattern.language := by
  induction pattern with
  | empty => exact .nothing
  | oneOf set => exact .character set
  | assertion condition => cases plain
  | sequence first second inFirst inSecond =>
    obtain ⟨plainFirst, plainSecond⟩ := Bool.and_eq_true_iff.mp plain
    exact (inFirst plainFirst).trans (inSecond plainSecond)
  | choice first second inFirst inSecond =>
    obtain ⟨plainFirst, plainSecond⟩ := Bool.and_eq_true_iff.mp plain
    exact (inFirst plainFirst).either (inSecond plainSecond)
  | group body induction => exact induction plain
  | «repeated» body least most greedy induction =>
    exact (induction plain).repetitions _

/-! ## Whole texts -/

def whole (parts : List Pattern) : Pattern :=
  ofParts ([.assertion .textStart] ++ parts ++ [.assertion .textEnd])

theorem isAnchored_whole (parts : List Pattern) : (whole parts).isAnchored = true := by
  cases parts <;> rfl

theorem takes_whole_iff {parts : List Pattern} (plain : ∀ part ∈ parts, part.isPlain = true)
    {text : List Char} {stop : Nat} :
    (whole parts).Takes text 0 stop ↔ stop = text.length ∧ text ∈ (parts.map language).prod := by
  have cut := takesWords (isPlain_ofParts plain) text [] text rfl
  rw [language_ofParts] at cut
  have bounds : (whole parts).Takes text 0 stop ↔
      (ofParts parts).Takes text 0 stop ∧ text[stop]? = none := by
    simp [whole, takes_ofParts_append, ofParts, Takes, Assertion.holds, Text.before?]
  rw [bounds]
  constructor
  · intro both
    obtain ⟨taken, ends⟩ := both
    obtain ⟨word, isWord, after, joined, reaches⟩ := (cut stop).mp taken
    have covers : text.length ≤ word.length := reaches ▸ List.getElem?_eq_none_iff.mp ends
    have nothingLeft : after = [] := by
      rw [← joined, List.length_append] at covers
      exact List.eq_nil_of_length_eq_zero (by omega)
    rw [nothingLeft, List.append_nil] at joined
    subst joined
    exact ⟨reaches.symm, isWord⟩
  · intro both
    obtain ⟨reaches, isWord⟩ := both
    subst reaches
    refine ⟨(cut _).mpr ⟨text, isWord, [], List.append_nil _, rfl⟩, ?_⟩
    exact List.getElem?_eq_none (Nat.le_refl _)

/-- Patterns without assertions between the start and the end of a text match exactly if the text is
a word of each of them, one after the other. -/
theorem isMatch_whole_iff {parts : List Pattern} (plain : ∀ part ∈ parts, part.isPlain = true)
    {text : List Char} :
    (Automaton.ofPattern (whole parts)).isMatch text = true ↔
      text ∈ (parts.map language).prod := by
  constructor
  · intro isMatch
    obtain ⟨found, isFound⟩ := Option.isSome_iff_exists.mp isMatch
    obtain ⟨taken, bound⟩ := takes_of_find? isFound
    rw [bound (isAnchored_whole parts)] at taken
    exact ((takes_whole_iff plain).mp taken).2
  · intro isWord
    exact isSome_find?_of_takes ((takes_whole_iff plain).mpr ⟨rfl, isWord⟩)

end Proviso.Pattern
