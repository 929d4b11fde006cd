import Proviso.Proofs.Number.Decimal
import Proviso.Proofs.Text.Runs
import Proviso.Proofs.Token.Names
import Proviso.Proofs.Token.Quotation

/-!
The tokens of written conditions. Names, numbers and texts are tokens of their own where nothing
stands behind them, or what stands behind a value as conditions are written: a parenthesis that
closes, a comma, or a blank and an operator.
-/

namespace Proviso.Lexer

open Text (isBlank isWord isDigit takeWhile_append_of_head takeWhile_append_eq dropWhile_eq_self
  dropWhile_append_eq)

/-! ## What stands behind a value -/

def operatorStarts : List Char :=
  '&' :: '|' :: relationStarts

/-- What can stand behind a value. -/
inductive Closes : List Char → Prop where
  | nothing : Closes []
  | parenthesis (rest : List Char) : Closes (')' :: rest)
  | comma (rest : List Char) : Closes (',' :: rest)
  | operator {start : Char} (starts : start ∈ operatorStarts) (rest : List Char) :
      Closes (' ' :: start :: rest)

namespace Closes

variable {rest : List Char} (closes : Closes rest)

include closes

theorem head?_mem : rest.head? ∈ [none, some ')', some ',', some ' '] := by
  cases closes <;> simp

theorem fails {test : Char → Bool} (each : [')', ',', ' '].all (!test ·) = true) :
    ∀ char ∈ rest.head?, test char = false := by
  intro char isHead
  have among := closes.head?_mem
  rw [isHead] at among
  have member : char ∈ [')', ',', ' '] := by simpa using among
  simpa using List.all_eq_true.mp each char member

theorem noWord : ∀ char ∈ rest.head?, isWord char = false :=
  closes.fails (by decide +kernel)

theorem isWordAt_eq : Assertion.isWordAt false rest.head? = false := by
  cases isHead : rest.head? with
  | none => rfl
  | some char => exact closes.noWord char isHead

theorem parenthesisLength?_eq : parenthesisLength? rest = none := by
  cases closes with
  | nothing => rfl
  | parenthesis rest => rfl
  | comma rest => rfl
  | operator starts rest =>
    have each : operatorStarts.all (fun start => !isBlank start && start != '(') = true := by
      decide
    have plain := List.all_eq_true.mp each _ starts
    rw [Bool.and_eq_true, bne_iff_ne, Bool.not_eq_true'] at plain
    have blank : isBlank ' ' = true := by decide
    simp [parenthesisLength?, blank, plain]

end Closes

/-! ## Paths -/

/-- Names with dots between them, the first of which is no keyword. -/
structure IsPath (text : List Char) : Prop where
  begins : ∃ char rest, text = char :: rest ∧ nameStart.contains char = true ∧
    IsPathRest false rest
  noKeyword : wordType? (text.takeWhile isWord) = none

theorem exists_cons_of_next? {first rest : List Char} {type : TokenType}
    (next : standard.next? (first ++ rest) = some (first.length, type)) :
    ∃ char others, first = char :: others := by
  cases first with
  | nil => exact absurd (count_of_next? next).1 (Nat.lt_irrefl 0)
  | cons char others => exact ⟨char, others, rfl⟩

theorem isPathRest_of_next? {char : Char} {others rest : List Char}
    (next : standard.next? (char :: (others ++ rest)) = some (others.length + 1, .identifier)) :
    IsPathRest false others ∧ (∀ char ∈ rest.head?, isWord char = false) ∧
      openingLength? (others ++ rest) = none := by
  have token := (nameToken_of_next? next (.inl rfl)).2.2
  unfold nameToken at token
  split at token <;> rw [Prod.mk.injEq] at token
  case h_1 => cases token.2
  case h_2 unopened =>
    have whole : pathLength false (others ++ rest) = others.length := by omega
    have path : IsPathRest false others := isPathRest_of_pathLength whole
    refine ⟨path, ?_, unopened⟩
    rw [path.pathLength_append] at whole
    intro char isHead
    rcases List.head?_eq_some_iff.mp isHead with ⟨behind, rfl⟩
    refine Bool.eq_false_iff.mpr fun word => ?_
    simp [pathLength, word] at whole

theorem isPath_of_next? {first rest : List Char}
    (next : standard.next? (first ++ rest) = some (first.length, .identifier)) : IsPath first := by
  rcases exists_cons_of_next? next with ⟨char, others, rfl⟩
  rw [List.cons_append] at next
  rcases nameToken_of_next? next (.inl rfl) with ⟨starts, noKeyword, _⟩
  rcases isPathRest_of_next? next with ⟨path, ends, _⟩
  refine ⟨⟨char, others, rfl, starts, path⟩, ?_⟩
  rwa [← List.cons_append, takeWhile_append_of_head ends] at noKeyword

theorem IsPathRest.dropWhile_append {behindDot : Bool} {text : List Char}
    (path : IsPathRest behindDot text) {rest : List Char}
    (ends : ∀ char ∈ rest.head?, isWord char = false) :
    (text ++ rest).dropWhile isWord = rest ∨
      ∃ others, (text ++ rest).dropWhile isWord = '.' :: others := by
  induction path with
  | nothing => exact .inl (dropWhile_eq_self ends)
  | word word _ induction => simpa [word] using induction
  | @dot behind =>
    refine .inr ⟨behind ++ rest, dropWhile_eq_self ?_⟩
    intro char isHead
    cases isHead
    decide +kernel
  | name starts _ induction => simpa [isWord_of_nameStart starts] using induction

/-- A path is a token where no name goes on behind it and no call opens. -/
theorem IsPath.next?_of_unopened {text : List Char} (path : IsPath text) {rest : List Char}
    (noWord : ∀ char ∈ rest.head?, isWord char = false) (noDot : ∀ char ∈ rest.head?, char ≠ '.')
    (unopened : openingLength? (text.tail ++ rest) = none) :
    standard.next? (text ++ rest) = some (text.length, .identifier) := by
  rcases path.begins with ⟨char, others, rfl, starts, behind⟩
  rw [List.tail_cons] at unopened
  have whole : pathLength false (others ++ rest) = others.length := by
    have ends : pathLength false rest = 0 := by
      cases rest with
      | nil => rfl
      | cons next rest => simp [pathLength, noWord next rfl, noDot next rfl]
    simp [behind.pathLength_append, ends]
  rw [List.cons_append, next?_of_nameStart starts, ← List.cons_append,
    takeWhile_append_of_head noWord, path.noKeyword, nameToken, unopened, whole, List.length_cons,
    Nat.add_comm]

theorem IsPath.next? {text : List Char} (path : IsPath text) {rest : List Char}
    (closes : Closes rest) : standard.next? (text ++ rest) = some (text.length, .identifier) := by
  have noDot : ∀ char ∈ rest.head?, (char == '.') = false := closes.fails (by decide)
  refine path.next?_of_unopened closes.noWord
    (fun char isHead => beq_eq_false_iff_ne.mp (noDot char isHead)) ?_
  rcases path.begins with ⟨char, others, rfl, _, behind⟩
  rw [List.tail_cons, openingLength?]
  rcases behind.dropWhile_append closes.noWord with same | ⟨others, isDot⟩
  · rw [same, closes.parenthesisLength?_eq]
    rfl
  · rw [isDot]
    rfl

/-! ## Names in front of parentheses -/

structure IsCallee (text : List Char) : Prop where
  begins : ∃ char rest, text = char :: rest ∧ nameStart.contains char = true
  allWord : ∀ char ∈ text, isWord char = true
  noKeyword : wordType? text = none

theorem trimParentheses_append {name blanks : List Char}
    (allWord : ∀ char ∈ name, isWord char = true)
    (allBlank : ∀ char ∈ blanks, isBlank char = true) :
    trimParentheses (name ++ blanks ++ ['(']) = name := by
  have noParenthesis : ∀ char ∈ (blanks.reverse ++ name.reverse).head?, (char == '(') = false := by
    intro char isHead
    refine beq_false_of_ne ?_
    rintro rfl
    rcases List.mem_append.mp (List.mem_of_head? isHead) with among | among
    · exact absurd (allBlank _ (List.mem_reverse.mp among)) (by decide)
    · exact absurd (allWord _ (List.mem_reverse.mp among)) (by decide +kernel)
  have noBlank : ∀ char ∈ name.reverse.head?, isBlank char = false := by
    intro char isHead
    have word := allWord char (List.mem_reverse.mp (List.mem_of_head? isHead))
    refine Bool.eq_false_iff.mpr fun blank => ?_
    rw [isWord_of_isBlank blank] at word
    cases word
  have reversed : (name ++ blanks ++ ['(']).reverse = '(' :: (blanks.reverse ++ name.reverse) := by
    simp
  have allBlank : ∀ char ∈ blanks.reverse, isBlank char = true :=
    fun char member => allBlank char (List.mem_reverse.mp member)
  rw [trimParentheses, reversed, List.dropWhile_cons, if_pos (beq_self_eq_true '('),
    dropWhile_eq_self noParenthesis, Text.trimEnd, List.reverse_reverse,
    dropWhile_append_eq allBlank noBlank, List.reverse_reverse]

theorem exists_of_parenthesisLength? {text : List Char} {count : Nat}
    (behind : parenthesisLength? text = some count) :
    ∃ blanks rest, text = blanks ++ '(' :: rest ∧ (∀ char ∈ blanks, isBlank char = true) ∧
      count = blanks.length + 1 := by
  rw [parenthesisLength?] at behind
  split at behind
  case isTrue opens =>
    rcases List.head?_eq_some_iff.mp opens with ⟨rest, isRest⟩
    refine ⟨text.takeWhile isBlank, rest, ?_, List.all_eq_true.mp List.all_takeWhile,
      (Option.some.inj behind).symm⟩
    rw [← isRest, List.takeWhile_append_dropWhile]
  case isFalse => cases behind

theorem exists_isCallee_of_next? {first rest : List Char}
    (next : standard.next? (first ++ rest) = some (first.length, .functionOpen)) :
    ∃ name blanks, first = name ++ blanks ++ ['('] ∧ IsCallee name ∧
      ∀ char ∈ blanks, isBlank char = true := by
  rcases exists_cons_of_next? next with ⟨char, others, rfl⟩
  rw [List.cons_append] at next
  rcases nameToken_of_next? next (.inr rfl) with ⟨starts, noKeyword, token⟩
  unfold nameToken at token
  split at token <;> rw [Prod.mk.injEq] at token
  case h_2 => cases token.2
  case h_1 count opens =>
    rcases Option.map_eq_some_iff.mp opens with ⟨length, behind, rfl⟩
    rcases exists_of_parenthesisLength? behind with ⟨blanks, inside, split, allBlank, rfl⟩
    let name := (others ++ rest).takeWhile isWord
    have allWord : ∀ char ∈ name, isWord char = true := List.all_eq_true.mp List.all_takeWhile
    have whole : others ++ rest = (name ++ blanks ++ ['(']) ++ inside := by
      have joined : name ++ (others ++ rest).dropWhile isWord = others ++ rest :=
        List.takeWhile_append_dropWhile
      rw [← joined, split]
      simp
    have sameLength : others.length = (name ++ blanks ++ ['(']).length := by
      have counted : 1 + (name.length + (blanks.length + 1)) = others.length + 1 := token.1
      simp only [List.length_append, List.length_singleton]
      omega
    have taken := (List.append_inj whole sameLength).1
    have allWord : ∀ other ∈ char :: name, isWord other = true :=
      List.forall_mem_cons.mpr ⟨isWord_of_nameStart starts, allWord⟩
    refine ⟨char :: name, blanks, congrArg (char :: ·) taken, ⟨⟨char, name, rfl, starts⟩, allWord,
      ?_⟩, allBlank⟩
    rwa [List.takeWhile_cons, if_pos (isWord_of_nameStart starts)] at noKeyword

theorem isCallee_of_next? {first rest : List Char}
    (next : standard.next? (first ++ rest) = some (first.length, .functionOpen)) :
    IsCallee (trimParentheses first) := by
  rcases exists_isCallee_of_next? next with ⟨name, blanks, rfl, callee, allBlank⟩
  rwa [trimParentheses_append callee.allWord allBlank]

theorem IsCallee.next?_of_blanks {text blanks : List Char} (callee : IsCallee text)
    (allBlank : ∀ char ∈ blanks, isBlank char = true) (rest : List Char) :
    standard.next? (text ++ (blanks ++ '(' :: rest)) =
      some (text.length + (blanks.length + 1), .functionOpen) := by
  rcases callee with ⟨⟨char, others, rfl, starts⟩, allWord, noKeyword⟩
  have plain : isWord '(' = false ∧ isBlank '(' = false := by decide +kernel
  have ends : ∀ char ∈ (blanks ++ '(' :: rest).head?, isWord char = false := by
    intro char isHead
    cases blanks with
    | nil =>
      cases isHead
      exact plain.1
    | cons blank blanks =>
      cases isHead
      exact isWord_of_isBlank (allBlank char (List.mem_cons_self ..))
  have word := takeWhile_append_eq allWord ends
  rw [List.forall_mem_cons] at allWord
  have opened : openingLength? (others ++ (blanks ++ '(' :: rest)) =
      some (others.length + (blanks.length + 1)) := by
    rw [openingLength?, takeWhile_append_eq allWord.2 ends,
      dropWhile_append_eq allWord.2 ends, parenthesisLength?,
      List.dropWhile_append_of_pos allBlank, List.takeWhile_append_of_pos allBlank]
    simp [plain.2]
  rw [List.cons_append] at word
  rw [List.cons_append, next?_of_nameStart starts, word, noKeyword, nameToken, opened,
    List.length_cons]
  simp [Nat.add_comm, Nat.add_left_comm]

theorem IsCallee.next? {text : List Char} (callee : IsCallee text) (rest : List Char) :
    standard.next? (text ++ '(' :: rest) = some (text.length + 1, .functionOpen) :=
  callee.next?_of_blanks (List.forall_mem_nil _) rest

/-! ## Whole numbers -/

def integers : Automaton where
  states := #[.accept, .check .textStart 2, .branch 3 5,
    .step (.ranges [(0x2B, 0x2B), (0x2D, 0x2D)]) 5, .branch 5 0, .step .digit 4]
  entry := 1
  anchored := true

theorem integers_bound : integers.IsBound :=
  Automaton.isBound_of_all rfl (by decide +kernel)

theorem integers_sign :
    integers.states[3]? = some (.step (.ranges [(0x2B, 0x2B), (0x2D, 0x2D)]) 5) := by
  decide +kernel

theorem integers_opened :
    integers.spread (fun _ => true) [⟨1, 0⟩] = [⟨1, 0⟩, ⟨3, 0⟩, ⟨5, 0⟩] := by
  decide +kernel

theorem integers_digit : integers.states[5]? = some (.step .digit 4) := by
  decide +kernel

theorem onward_integers {threads : List Thread} (ends : ∀ char, integers.onward char threads = [])
    (char : Char) :
    integers.onward char (⟨5, 0⟩ :: threads) = if isDigit char then [⟨4, 0⟩] else [] := by
  rw [Automaton.onward_cons_step integers_digit, CharClass.contains_digit, ends]

theorem searchFrom_integers (delayed : Bool) (position : Nat) (before : Char)
    (found : Option Match) (text : List Char) :
    integers.searchFrom delayed position (some before) [⟨4, 0⟩] found text =
      some (some ⟨0, position + (text.takeWhile isDigit).length⟩) := by
  have opened : integers.spread (fun _ => false) [⟨4, 0⟩] = [⟨5, 0⟩, ⟨0, 0⟩] := by decide +kernel
  have accepted (position : Nat) :
      integers.accepted? position [⟨5, 0⟩, ⟨0, 0⟩] = some ⟨0, position⟩ :=
    rfl
  induction text generalizing position before found with
  | nil => rw [integers_bound.searchFrom_nil opened, accepted]; rfl
  | cons char rest induction =>
    rw [integers_bound.searchFrom_cons opened, onward_integers fun _ => rfl, accepted]
    cases digit : isDigit char with
    | false => simp [digit, integers_bound.searchFrom_no_threads]
    | true => simp [digit, induction]; omega

theorem find?_integers_of_digit {char : Char} (digit : char.isDigit = true) (rest : List Char) :
    integers.find? (char :: rest) = some ⟨0, 1 + (rest.takeWhile isDigit).length⟩ := by
  have noSign : (CharClass.ranges [(0x2B, 0x2B), (0x2D, 0x2D)]).contains char = false := by
    simp only [Char.isDigit, Bool.and_eq_true, decide_eq_true_eq, UInt32.le_iff_toNat_le] at digit
    have low : 0x30 ≤ char.toNat := digit.1
    simp [CharClass.contains, CharClass.holds, Text.CodeRanges.holds]
    omega
  have onward : integers.onward char [⟨1, 0⟩, ⟨3, 0⟩, ⟨5, 0⟩] = [⟨4, 0⟩] := by
    change integers.onward char [⟨3, 0⟩, ⟨5, 0⟩] = _
    rw [Automaton.onward_cons_step integers_sign, noSign, onward_integers fun _ => rfl,
      Text.isDigit_of_asciiDigit digit]
    rfl
  exact integers_bound.find?_cons integers_opened rfl onward fun _ => searchFrom_integers ..

theorem find?_integers_of_minus {char : Char} (digit : char.isDigit = true) (rest : List Char) :
    integers.find? ('-' :: char :: rest) = some ⟨0, 2 + (rest.takeWhile isDigit).length⟩ := by
  have onward : integers.onward '-' [⟨1, 0⟩, ⟨3, 0⟩, ⟨5, 0⟩] = [⟨5, 0⟩] := by decide +kernel
  have behindSign : integers.spread (fun _ => false) [⟨5, 0⟩] = [⟨5, 0⟩] := by decide +kernel
  have unmatched : integers.accepted? 1 [⟨5, 0⟩] = none := rfl
  refine integers_bound.find?_cons integers_opened rfl onward fun delayed => ?_
  rw [integers_bound.searchFrom_cons behindSign, onward_integers fun _ => rfl, unmatched,
    Text.isDigit_of_asciiDigit digit]
  exact searchFrom_integers ..

def numberChars : List Char :=
  ['0', '1', '2', '3', '4', '5', '6', '7', '8', '9', '-']

/-- The states that the automaton of fractions is in before a point or an exponent. -/
def wholeStates : List Nat :=
  [1, 2, 3, 4, 5, 6, 7, 16, 17, 18]

/-- Whether an automaton stays in the states of whole numbers as long as it reads one, and ends
in none of them. -/
def staysWhole (automaton : Automaton) : Bool :=
  automaton.anchored &&
    automaton.states.all (fun
      | .check condition _ => condition == .textStart
      | _ => true) &&
    wholeStates.contains automaton.entry &&
    [none, some ')', some ',', some ' '].all (automaton.isDeadEnd wholeStates) &&
    numberChars.all fun char => wholeStates.all fun index =>
      match automaton.states[index]? with
      | some (.step set next) => !set.contains char || wholeStates.contains next
      | _ => true

def isNumeric (rule : LexerRule) : Bool :=
  match rule.type with
  | .float => staysWhole rule.automaton
  | .integer => rule.automaton == integers
  | _ => true

theorem standard_numeric : standard.all isNumeric = true := by
  decide +kernel

theorem token?_float {rule : LexerRule} (member : rule ∈ standard) (isFloat : rule.type = .float)
    {text rest : List Char} (closes : Closes rest) (whole : ∀ char ∈ text, char ∈ numberChars) :
    token? rule (text ++ rest) = none := by
  have numeric := List.all_eq_true.mp standard_numeric rule member
  simp only [isNumeric, isFloat, staysWhole, Bool.and_eq_true] at numeric
  rcases numeric with ⟨⟨⟨⟨anchored, asks⟩, begins⟩, dead⟩, stays⟩
  have bound := Automaton.isBound_of_all anchored asks
  have dead := Automaton.deadEnd_of_isDeadEnd (List.all_eq_true.mp dead _ closes.head?_mem)
  have nothing : rule.automaton.find? (text ++ rest) = none := by
    refine bound.find?_append_of_stays (List.contains_iff_mem.mp begins) dead ?_
    intro char member index inside set next found takes
    have each := List.all_eq_true.mp stays char (whole char member)
    simpa [found, takes] using List.all_eq_true.mp each index inside
  rw [token?, nothing]

theorem mem_numberChars_of_isDigit {char : Char} (digit : char.isDigit = true) :
    char ∈ numberChars := by
  simp only [Char.isDigit, Bool.and_eq_true, decide_eq_true_eq, UInt32.le_iff_toNat_le] at digit
  have low : 0x30 ≤ char.toNat := digit.1
  have high : char.toNat ≤ 0x39 := digit.2
  have each : (List.range' 0x30 10).all (fun code => numberChars.contains (Char.ofNat code)) =
      true := by
    decide
  have among := List.all_eq_true.mp each char.toNat (List.mem_range'_1.mpr ⟨low, by omega⟩)
  rwa [Char.ofNat_toNat, List.contains_iff_mem] at among

theorem signedDecimal_ne_nil (number : Int) : Number.signedDecimal number ≠ [] := by
  rw [Number.signedDecimal]
  split
  case isTrue => exact List.cons_ne_nil _ _
  case isFalse => exact Number.decimal_ne_nil _

theorem mem_numberChars_of_mem_signedDecimal {number : Int} {char : Char}
    (member : char ∈ Number.signedDecimal number) : char ∈ numberChars := by
  have digits (member : char ∈ Number.decimal number.natAbs) : char ∈ numberChars :=
    mem_numberChars_of_isDigit (Number.isDigit_of_mem_decimal member)
  rw [Number.signedDecimal] at member
  split at member
  case isTrue =>
    rcases List.mem_cons.mp member with rfl | member
    · decide
    · exact digits member
  case isFalse => exact digits member

theorem find?_integers_signedDecimal (number : Int) {rest : List Char} (closes : Closes rest) :
    integers.find? (Number.signedDecimal number ++ rest) =
      some ⟨0, (Number.signedDecimal number).length⟩ := by
  have noDigit : ∀ char ∈ rest.head?, isDigit char = false := closes.fails (by decide +kernel)
  have areDigits : ∀ char ∈ Number.decimal number.natAbs, char.isDigit = true :=
    fun char => Number.isDigit_of_mem_decimal
  rcases List.exists_cons_of_ne_nil (Number.decimal_ne_nil number.natAbs) with
    ⟨first, others, isText⟩
  rw [isText, List.forall_mem_cons] at areDigits
  have taken : (others ++ rest).takeWhile isDigit = others :=
    takeWhile_append_eq (fun char member => Text.isDigit_of_asciiDigit (areDigits.2 char member))
      noDigit
  rw [Number.signedDecimal, isText]
  split
  case isTrue =>
    rw [List.cons_append, List.cons_append, find?_integers_of_minus areDigits.1, taken]
    simp [Nat.add_comm 2]
  case isFalse =>
    rw [List.cons_append, find?_integers_of_digit areDigits.1, taken]
    simp [Nat.add_comm 1]

theorem next?_signedDecimal (number : Int) {rest : List Char} (closes : Closes rest) :
    standard.next? (Number.signedDecimal number ++ rest) =
      some ((Number.signedDecimal number).length, .integer) := by
  have found := find?_integers_signedDecimal number closes
  have whole : ∀ char ∈ Number.signedDecimal number, char ∈ numberChars :=
    fun char => mem_numberChars_of_mem_signedDecimal
  rcases List.exists_cons_of_ne_nil (signedDecimal_ne_nil number) with ⟨char, others, isText⟩
  rw [isText] at found whole ⊢
  have listed : (numberChars, [TokenType.float, .integer]) ∈ leadingTypes := by
    have same : "0123456789-".toList = numberChars := by decide
    rw [leadingTypes, same]
    simp only [List.mem_cons, true_or, or_true]
  rcases next?_eq_first listed (whole char (List.mem_cons_self ..)) (others ++ rest) with
    ⟨float, rules, member, isFloat, known, types, next⟩
  rcases List.map_eq_singleton_iff.mp types with ⟨rule, rfl, isInteger⟩
  have numeric := List.all_eq_true.mp standard_numeric rule (known rule (List.mem_singleton_self _))
  rw [isNumeric, isInteger] at numeric
  have taken : token? rule (char :: others ++ rest) =
      some ((char :: others).length, .integer) := by
    rw [token?, beq_iff_eq.mp numeric, found, isInteger]
    exact if_pos (Nat.succ_pos _)
  rw [List.cons_append, next, ← List.cons_append, token?_float member isFloat closes whole,
    Option.none_or, List.findSome?_cons, taken]

/-! ## Texts -/

/-- A text that quotes itself: neither a single quote nor a backslash stands in it. -/
def IsPlainText (text : List Char) : Prop :=
  ∀ char ∈ text, char ≠ '\'' ∧ char ≠ '\\'

instance : DecidablePred IsPlainText :=
  fun text => List.decidableBAll (fun char => char ≠ '\'' ∧ char ≠ '\\') text

theorem guarded_of_plain {text : List Char} (plain : IsPlainText text) :
    Quote.single.guarded text = text := by
  induction text with
  | nil => rfl
  | cons char text induction =>
    rw [IsPlainText, List.forall_mem_cons] at plain
    rw [Quote.single.guarded_cons_of_plain (not_or.mpr plain.1), induction plain.2]

theorem next?_quoted {text : List Char} (plain : IsPlainText text) (rest : List Char) :
    standard.next? (('\'' :: text ++ ['\'']) ++ rest) =
      some (('\'' :: text ++ ['\'']).length, .string) := by
  have next := next?_quotation .single text rest
  rw [guarded_of_plain plain] at next
  exact next

theorem unquote_of_plain {text : List Char} (plain : IsPlainText text) :
    unquote ('\'' :: text ++ ['\'']) = text := by
  have unquoted := unquote_quotation .single text
  rw [guarded_of_plain plain] at unquoted
  exact unquoted

end Proviso.Lexer
