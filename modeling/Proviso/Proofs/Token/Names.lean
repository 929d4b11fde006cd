import Proviso.Proofs.Token.Words

/-!
Names. A text that begins like a name is cut into a keyword if its first word is one; else into the
opening of a call if a parenthesis follows the first word, with blanks between them or not; else
into the longest path of names with dots between them.
-/

namespace Proviso.Lexer

open Text (isBlank isWord)

/-! ## Characters -/

def members (ranges : Text.CodeRanges) : List Nat :=
  ranges.flatMap fun (first, last) => List.range' first (last + 1 - first)

theorem mem_members {ranges : Text.CodeRanges} (ascending : ranges.Ascending) {code : Nat}
    (inside : ranges.holds code = true) : code ∈ members ranges := by
  rcases (Text.CodeRanges.holds_iff ascending).mp inside with ⟨range, member, low, high⟩
  exact List.mem_flatMap.mpr ⟨range, member, List.mem_range'_1.mpr ⟨low, by omega⟩⟩

theorem isWord_of_isBlank {char : Char} (blank : isBlank char = true) : isWord char = false := by
  have each : (members Text.blankRanges).all (fun code => !Text.wordRanges.holds code) = true := by
    decide +kernel
  have inside := List.all_eq_true.mp each _ (mem_members (by decide) blank)
  simpa [isWord, Text.CodeRanges.contains] using inside

def nameStartRanges : Text.CodeRanges :=
  [(0x41, 0x5A), (0x5F, 0x5F), (0x61, 0x7A)]

def nameStart : CharClass :=
  .ranges nameStartRanges

theorem mem_members_of_nameStart {char : Char} (starts : nameStart.contains char = true) :
    char.toNat ∈ members nameStartRanges :=
  mem_members (by decide) starts

theorem isWord_of_nameStart {char : Char} (starts : nameStart.contains char = true) :
    isWord char = true := by
  have each : (members nameStartRanges).all (fun code => Text.wordRanges.holds code) = true := by
    decide +kernel
  exact List.all_eq_true.mp each _ (mem_members_of_nameStart starts)

/-! ## Paths -/

def paths : Automaton where
  states := #[.accept, .check .textStart 2, .step nameStart 3, .branch 4 5, .step .word 3,
    .branch 6 0, .step (.single '.') 7, .step nameStart 8, .branch 9 5, .step .word 8]
  entry := 1
  anchored := true

theorem paths_bound : paths.IsBound :=
  Automaton.isBound_of_all rfl (by decide +kernel)

/-- The number of characters by which a path goes on. The flag tells whether a dot has just gone
before, which belongs to the path if a name follows it. -/
def pathLength : Bool → List Char → Nat
  | _, [] => 0
  | true, char :: rest => if nameStart.contains char then pathLength false rest + 2 else 0
  | false, char :: rest =>
    if isWord char then pathLength false rest + 1
    else if char = '.' then pathLength true rest
    else 0

structure InName (state step : Nat) : Prop where
  opens : paths.spread (fun _ => false) [⟨state, 0⟩] = [⟨step, 0⟩, ⟨6, 0⟩, ⟨0, 0⟩]
  takes : paths.states[step]? = some (.step .word state)

theorem inName_first : InName 3 4 := by
  constructor <;> decide +kernel

theorem inName_later : InName 8 9 := by
  constructor <;> decide +kernel

theorem onward_inName {state step : Nat} (inName : InName state step) (char : Char) :
    paths.onward char [⟨step, 0⟩, ⟨6, 0⟩, ⟨0, 0⟩] =
      if isWord char then [⟨state, 0⟩] else if char = '.' then [⟨7, 0⟩] else [] := by
  have dot : paths.states[6]? = some (.step (.single '.') 7) := by decide +kernel
  have nothing : paths.onward char [⟨0, 0⟩] = [] := rfl
  have noWord : isWord '.' = false := by decide +kernel
  rw [Automaton.onward_cons_step inName.takes, Automaton.onward_cons_step dot, nothing,
    CharClass.contains_word, CharClass.contains_single]
  by_cases isDot : char = '.'
  · simp [isDot, noWord]
  · simp [isDot, Ne.symm isDot]

/-- A search inside a path finds its end, which is in front of a dot if no name begins behind it. -/
theorem searchFrom_paths {state step : Nat} (inName : InName state step) (delayed : Bool)
    (position : Nat) (before : Char) (found : Option Match) (text : List Char) :
    paths.searchFrom delayed position (some before) [⟨state, 0⟩] found text =
      some (some ⟨0, position + pathLength false text⟩) ∧
    paths.searchFrom delayed (position + 1) (some before) [⟨7, 0⟩] (some ⟨0, position⟩) text =
      some (some ⟨0, position + pathLength true text⟩) := by
  have dot : paths.states[6]? = some (.step (.single '.') 7) := by decide +kernel
  have accepted {state step : Nat} (inName : InName state step) (position : Nat) :
      paths.accepted? position [⟨step, 0⟩, ⟨6, 0⟩, ⟨0, 0⟩] = some ⟨0, position⟩ := by
    rw [Automaton.accepted?_cons_step inName.takes, Automaton.accepted?_cons_step dot]
    rfl
  have behindDot : paths.spread (fun _ => false) [⟨7, 0⟩] = [⟨7, 0⟩] := by decide +kernel
  have afterDot : paths.states[7]? = some (.step nameStart 8) := by decide +kernel
  have unmatched (position : Nat) : paths.accepted? position [⟨7, 0⟩] = none :=
    Automaton.accepted?_cons_step afterDot position []
  have onward (char : Char) : paths.onward char [⟨7, 0⟩] =
      if nameStart.contains char then [⟨8, 0⟩] else [] :=
    Automaton.onward_cons_step afterDot char []
  induction text generalizing state step position before found with
  | nil =>
    constructor
    · rw [paths_bound.searchFrom_nil inName.opens, accepted inName]
      rfl
    · rw [paths_bound.searchFrom_nil behindDot, unmatched]
      rfl
  | cons char rest induction =>
    constructor
    · rw [paths_bound.searchFrom_cons inName.opens, accepted inName, onward_inName inName,
        pathLength]
      by_cases word : isWord char = true
      · simp [word, (induction inName _ _ _).1, Nat.add_assoc, Nat.add_comm 1]
      by_cases isDot : char = '.'
      · rw [if_neg word, if_neg word, if_pos isDot, if_pos isDot]
        simp [(induction inName _ _ none).2]
      · simp [word, isDot, paths_bound.searchFrom_no_threads]
    · rw [paths_bound.searchFrom_cons behindDot, unmatched, onward, pathLength]
      cases nameStart.contains char with
      | false => simp
      | true => simp [(induction inName_later _ _ _).1, Nat.add_assoc, Nat.add_comm 2]

theorem find?_paths (char : Char) (rest : List Char) :
    paths.find? (char :: rest) =
      if nameStart.contains char then some ⟨0, 1 + pathLength false rest⟩ else none := by
  have opened : paths.spread (fun _ => true) [⟨1, 0⟩] = [⟨1, 0⟩, ⟨2, 0⟩] := by decide +kernel
  have onward : paths.onward char [⟨1, 0⟩, ⟨2, 0⟩] =
      if nameStart.contains char then [⟨3, 0⟩] else [] := by
    have first : paths.states[2]? = some (.step nameStart 3) := by decide +kernel
    change paths.onward char [⟨2, 0⟩] = _
    exact Automaton.onward_cons_step first char []
  refine paths_bound.find?_cons opened rfl onward fun delayed => ?_
  cases nameStart.contains char with
  | false => exact paths_bound.searchFrom_no_threads ..
  | true => exact (searchFrom_paths inName_first ..).1

/-! ## Openings of calls -/

def openings : Automaton where
  states := #[.accept, .check .textStart 2, .step nameStart 3, .branch 4 5, .step .word 3,
    .branch 6 7, .step .blank 5, .step (.single '(') 0]
  entry := 1
  anchored := true

theorem openings_bound : openings.IsBound :=
  Automaton.isBound_of_all rfl (by decide +kernel)

/-- The number of characters up to the parenthesis behind blanks, if one follows them. -/
def parenthesisLength? (text : List Char) : Option Nat :=
  if (text.dropWhile isBlank).head? = some '(' then some ((text.takeWhile isBlank).length + 1)
  else none

theorem parenthesisLength?_cons_of_blank {char : Char} (blank : isBlank char = true)
    (rest : List Char) :
    parenthesisLength? (char :: rest) = (parenthesisLength? rest).map (· + 1) := by
  rw [parenthesisLength?, parenthesisLength?, List.dropWhile_cons_of_pos blank,
    List.takeWhile_cons_of_pos blank]
  split <;> rfl

def openingLength? (text : List Char) : Option Nat :=
  (parenthesisLength? (text.dropWhile isWord)).map ((text.takeWhile isWord).length + ·)

theorem openings_blank : openings.states[6]? = some (.step .blank 5) := by decide +kernel

theorem openings_parenthesis : openings.states[7]? = some (.step (.single '(') 0) := by
  decide +kernel

theorem onward_behindName (char : Char) :
    openings.onward char [⟨6, 0⟩, ⟨7, 0⟩] =
      if isBlank char then [⟨5, 0⟩] else if char = '(' then [⟨0, 0⟩] else [] := by
  have nothing : openings.onward char [] = [] := rfl
  rw [Automaton.onward_cons_step openings_blank, Automaton.onward_cons_step openings_parenthesis,
    nothing, CharClass.contains_blank, CharClass.contains_single]
  by_cases opens : char = '('
  · subst opens
    rfl
  · simp [opens, Ne.symm opens]

theorem accepted?_behindName (position : Nat) :
    openings.accepted? position [⟨6, 0⟩, ⟨7, 0⟩] = none := by
  rw [Automaton.accepted?_cons_step openings_blank,
    Automaton.accepted?_cons_step openings_parenthesis]
  rfl

theorem searchFrom_behindName (delayed : Bool) (position : Nat) (before : Char)
    (text : List Char) :
    openings.searchFrom delayed position (some before) [⟨5, 0⟩] none text =
      some ((parenthesisLength? text).map fun count => ⟨0, position + count⟩) := by
  have opened : openings.spread (fun _ => false) [⟨5, 0⟩] = [⟨6, 0⟩, ⟨7, 0⟩] := by decide +kernel
  have closes (position : Nat) (before : Char) (text : List Char) :
      openings.searchFrom delayed position (some before) [⟨0, 0⟩] none text =
        some (some ⟨0, position⟩) := by
    have accepts : openings.spread (fun _ => false) [⟨0, 0⟩] = [⟨0, 0⟩] := by decide +kernel
    cases text with
    | nil => rw [openings_bound.searchFrom_nil accepts]; rfl
    | cons char rest =>
      rw [openings_bound.searchFrom_cons accepts]
      exact openings_bound.searchFrom_no_threads ..
  induction text generalizing position before with
  | nil =>
    rw [openings_bound.searchFrom_nil opened, accepted?_behindName]
    rfl
  | cons char rest induction =>
    rw [openings_bound.searchFrom_cons opened, accepted?_behindName, onward_behindName]
    by_cases blank : isBlank char = true
    · rw [parenthesisLength?_cons_of_blank blank]
      simp [blank, induction, Function.comp_def, Nat.add_assoc, Nat.add_comm 1]
    · have noBlank : isBlank char = false := Bool.eq_false_iff.mpr blank
      rw [parenthesisLength?]
      by_cases opens : char = '('
      · simp [noBlank, closes, if_pos opens]
      · simp [noBlank, opens]

theorem searchFrom_openings (delayed : Bool) (position : Nat) (before : Char) (text : List Char) :
    openings.searchFrom delayed position (some before) [⟨3, 0⟩] none text =
      some ((openingLength? text).map fun count => ⟨0, position + count⟩) := by
  have opened : openings.spread (fun _ => false) [⟨3, 0⟩] = [⟨4, 0⟩, ⟨6, 0⟩, ⟨7, 0⟩] := by
    decide +kernel
  have behind : openings.spread (fun _ => false) [⟨5, 0⟩] = [⟨6, 0⟩, ⟨7, 0⟩] := by decide +kernel
  have word : openings.states[4]? = some (.step .word 3) := by decide +kernel
  have unmatched (position : Nat) :
      openings.accepted? position [⟨4, 0⟩, ⟨6, 0⟩, ⟨7, 0⟩] =
        openings.accepted? position [⟨6, 0⟩, ⟨7, 0⟩] :=
    Automaton.accepted?_cons_step word position _
  induction text generalizing position before with
  | nil =>
    rw [openings_bound.searchFrom_nil opened, unmatched, accepted?_behindName]
    rfl
  | cons char rest induction =>
    have onward : openings.onward char [⟨4, 0⟩, ⟨6, 0⟩, ⟨7, 0⟩] =
        if isWord char then ⟨3, 0⟩ :: openings.onward char [⟨6, 0⟩, ⟨7, 0⟩]
        else openings.onward char [⟨6, 0⟩, ⟨7, 0⟩] := by
      rw [Automaton.onward_cons_step word, CharClass.contains_word]
    by_cases isWord : isWord char = true
    · -- No other thread takes a character of a word.
      have noBlank : isBlank char = false :=
        Bool.eq_false_iff.mpr fun blank => absurd (isWord_of_isBlank blank) (by simp [isWord])
      have noParenthesis : char ≠ '(' := by
        rintro rfl
        revert isWord
        decide +kernel
      rw [openings_bound.searchFrom_cons opened, unmatched, accepted?_behindName, onward,
        if_pos isWord, onward_behindName]
      simp [noBlank, noParenthesis, induction, openingLength?, isWord, Function.comp_def,
        Nat.add_assoc, Nat.add_comm 1]
    · -- Behind the name the search goes on as behind a blank.
      rw [openings_bound.searchFrom_cons opened, unmatched, onward, if_neg isWord,
        ← openings_bound.searchFrom_cons behind delayed position before, searchFrom_behindName]
      simp [openingLength?, isWord]

theorem find?_openings (char : Char) (rest : List Char) :
    openings.find? (char :: rest) =
      if nameStart.contains char then
        (openingLength? rest).map fun count => ⟨0, 1 + count⟩
      else none := by
  have opened : openings.spread (fun _ => true) [⟨1, 0⟩] = [⟨1, 0⟩, ⟨2, 0⟩] := by decide +kernel
  have onward : openings.onward char [⟨1, 0⟩, ⟨2, 0⟩] =
      if nameStart.contains char then [⟨3, 0⟩] else [] := by
    have first : openings.states[2]? = some (.step nameStart 3) := by decide +kernel
    change openings.onward char [⟨2, 0⟩] = _
    exact Automaton.onward_cons_step first char []
  refine openings_bound.find?_cons opened rfl onward fun delayed => ?_
  cases nameStart.contains char with
  | false => exact openings_bound.searchFrom_no_threads ..
  | true => exact searchFrom_openings ..

/-! ## Rules -/

def isNaming (rule : LexerRule) : Bool :=
  match rule.type with
  | .identifier => rule.automaton == paths
  | .functionOpen => rule.automaton == openings
  | _ => true

theorem standard_naming : standard.all isNaming = true := by
  decide +kernel

theorem token?_identifier {rule : LexerRule} (member : rule ∈ standard)
    (isIdentifier : rule.type = .identifier) (char : Char) (rest : List Char) :
    token? rule (char :: rest) =
      if nameStart.contains char then some (1 + pathLength false rest, .identifier) else none := by
  have naming := List.all_eq_true.mp standard_naming rule member
  rw [isNaming, isIdentifier] at naming
  rw [token?, beq_iff_eq.mp naming, find?_paths, isIdentifier]
  cases nameStart.contains char <;> simp

theorem token?_functionOpen {rule : LexerRule} (member : rule ∈ standard)
    (isOpening : rule.type = .functionOpen) (char : Char) (rest : List Char) :
    token? rule (char :: rest) =
      if nameStart.contains char then
        (openingLength? rest).map fun count => (1 + count, .functionOpen)
      else none := by
  have naming := List.all_eq_true.mp standard_naming rule member
  rw [isNaming, isOpening] at naming
  rw [token?, beq_iff_eq.mp naming, find?_openings, isOpening]
  cases nameStart.contains char with
  | false => rfl
  | true => cases openingLength? rest <;> simp

theorem isWord_of_keyword? {type : TokenType} {chars : List Char}
    (isKeyword : keyword? type = some chars) : ∀ char ∈ chars, isWord char = true := by
  have allWord : chars.all isWord = true := by
    cases type <;> cases isKeyword <;> decide +kernel
  exact List.all_eq_true.mp allWord

theorem token?_of_keyword {rule : LexerRule} (member : rule ∈ standard) {chars : List Char}
    (isKeyword : keyword? rule.type = some chars) (text : List Char) :
    token? rule text =
      if text.takeWhile isWord = chars then some (chars.length, rule.type) else none := by
  by_cases begins : chars <+: text
  · rcases begins with ⟨rest, rfl⟩
    rw [token?_keyword member isKeyword,
      List.takeWhile_append_of_pos (isWord_of_keyword? isKeyword)]
    cases rest with
    | nil => simp [Assertion.isWordAt]
    | cons char rest =>
      cases word : isWord char <;> simp [Assertion.isWordAt, word]
  · rw [token?_of_not_keyword member isKeyword begins, if_neg]
    rintro rfl
    exact begins (List.takeWhile_prefix isWord)

/-! ## Tokens -/

def wordType? (word : List Char) : Option TokenType :=
  [TokenType.true, .false, .null].find? fun type => keyword? type == some word

/-- The token with which a text that begins like a name goes on, if its first word is no
keyword. -/
def nameToken (rest : List Char) : Nat × TokenType :=
  match openingLength? rest with
  | some count => (1 + count, .functionOpen)
  | none => (1 + pathLength false rest, .identifier)

theorem findSome?_naming {rules : List LexerRule} (known : ∀ rule ∈ rules, rule ∈ standard)
    (types : rules.map (·.type) = [.functionOpen, .identifier]) {char : Char}
    (starts : nameStart.contains char = true) (rest : List Char) :
    rules.findSome? (token? · (char :: rest)) = some (nameToken rest) := by
  rcases List.map_eq_cons_iff.mp types with ⟨opening, others, rfl, isOpening, otherTypes⟩
  rcases List.map_eq_singleton_iff.mp otherTypes with ⟨path, rfl, isIdentifier⟩
  rw [List.findSome?_cons, List.findSome?_cons,
    token?_functionOpen (known _ (List.mem_cons_self ..)) isOpening,
    token?_identifier (known _ (List.mem_cons_of_mem _ (List.mem_singleton_self _))) isIdentifier,
    if_pos starts, if_pos starts, nameToken]
  cases openingLength? rest <;> rfl

theorem findSome?_keywords {rules : List LexerRule} (known : ∀ rule ∈ rules, rule ∈ standard)
    (keywords : ∀ rule ∈ rules, (keyword? rule.type).isSome = true) (text : List Char) :
    rules.findSome? (token? · text) =
      ((rules.map (·.type)).find? fun type => keyword? type == some (text.takeWhile isWord)).map
        fun type => ((text.takeWhile isWord).length, type) := by
  induction rules with
  | nil => rfl
  | cons rule rest induction =>
    rw [List.forall_mem_cons] at known keywords
    rcases Option.isSome_iff_exists.mp keywords.1 with ⟨chars, isKeyword⟩
    rw [List.findSome?_cons, List.map_cons, List.find?_cons, token?_of_keyword known.1 isKeyword,
      isKeyword, induction known.2 keywords.2]
    by_cases same : text.takeWhile isWord = chars
    · simp [same]
    · have different : (some chars == some (text.takeWhile isWord)) = false :=
        beq_false_of_ne fun equal => same (Option.some.inj equal).symm
      rw [if_neg same, different]

def keywordsWith (char : Char) : List TokenType :=
  [TokenType.true, .false, .null].filter fun type => (keyword? type).bind List.head? == some char

theorem leading_of_nameStart {char : Char} (starts : nameStart.contains char = true) :
    ∃ chars, (chars, keywordsWith char ++ [.functionOpen, .identifier]) ∈ leadingTypes ∧
      char ∈ chars := by
  have each : (members nameStartRanges).all (fun code => leadingTypes.any fun entry =>
      entry.1.contains (Char.ofNat code) &&
        entry.2 == keywordsWith (Char.ofNat code) ++ [.functionOpen, .identifier]) = true := by
    decide +kernel
  have found := List.all_eq_true.mp each _ (mem_members_of_nameStart starts)
  rw [Char.ofNat_toNat] at found
  rcases List.any_eq_true.mp found with ⟨⟨chars, types⟩, listed, fits⟩
  rw [Bool.and_eq_true, List.contains_iff_mem, beq_iff_eq] at fits
  exact ⟨chars, fits.2 ▸ listed, fits.1⟩

theorem find?_keywordsWith {char : Char} {word : List Char} (begins : word.head? = some char) :
    (keywordsWith char).find? (fun type => keyword? type == some word) = wordType? word := by
  rw [keywordsWith, List.find?_filter, wordType?]
  congr 1
  funext type
  cases isKeyword : keyword? type with
  | none => simp
  | some chars =>
    by_cases same : chars = word
    · simp [same, begins]
    · simp [same]

theorem next?_of_nameStart {char : Char} (starts : nameStart.contains char = true)
    (rest : List Char) :
    standard.next? (char :: rest) =
      match wordType? ((char :: rest).takeWhile isWord) with
      | some type => some (((char :: rest).takeWhile isWord).length, type)
      | none => some (nameToken rest) := by
  rcases leading_of_nameStart starts with ⟨chars, listed, among⟩
  have known : ∀ rule ∈ leaders char, rule ∈ standard :=
    fun rule member => (List.mem_filter.mp member).1
  rw [next?_eq_leaders]
  rcases List.map_eq_append_iff.mp (types_leaders listed among) with
    ⟨keywords, names, equal, keywordTypes, nameTypes⟩
  rw [equal, List.forall_mem_append] at known
  rw [equal]
  have isKeyword : ∀ rule ∈ keywords, (keyword? rule.type).isSome = true := by
    intro rule member
    have among : rule.type ∈ keywordsWith char := keywordTypes ▸ List.mem_map_of_mem member
    have among := (List.mem_filter.mp among).1
    simp only [List.mem_cons, List.not_mem_nil, or_false] at among
    rcases among with isType | isType | isType <;> rw [isType] <;> rfl
  have begins : ((char :: rest).takeWhile isWord).head? = some char := by
    rw [List.takeWhile_cons, if_pos (isWord_of_nameStart starts), List.head?_cons]
  rw [List.findSome?_append, findSome?_keywords known.1 isKeyword, keywordTypes,
    find?_keywordsWith begins, findSome?_naming known.2 nameTypes starts]
  cases wordType? ((char :: rest).takeWhile isWord) <;> rfl

theorem nameToken_of_next? {char : Char} {rest : List Char} {count : Nat} {type : TokenType}
    (next : standard.next? (char :: rest) = some (count, type))
    (isName : type = .identifier ∨ type = .functionOpen) :
    nameStart.contains char = true ∧ wordType? ((char :: rest).takeWhile isWord) = none ∧
      nameToken rest = (count, type) := by
  have starts : nameStart.contains char = true := by
    rcases List.exists_of_findSome?_eq_some next with ⟨rule, member, taken⟩
    change token? rule (char :: rest) = some (count, type) at taken
    refine Decidable.byContradiction fun noStart => ?_
    rcases isName with rfl | rfl
    · rw [token?_identifier member (type_of_token? taken), if_neg noStart] at taken
      cases taken
    · rw [token?_functionOpen member (type_of_token? taken), if_neg noStart] at taken
      cases taken
  rw [next?_of_nameStart starts] at next
  split at next
  case h_1 keyword isKeyword =>
    have among := List.mem_of_find?_eq_some isKeyword
    cases next
    simp only [List.mem_cons, List.not_mem_nil, or_false] at among
    rcases isName with rfl | rfl <;> cases among <;> contradiction
  case h_2 noKeyword => exact ⟨starts, noKeyword, Option.some.inj next⟩

/-! ## Paths in front of other texts -/

/-- What a path of names consists of behind its first character; the flag tells whether a dot has
just gone before. -/
inductive IsPathRest : Bool → List Char → Prop where
  | nothing : IsPathRest false []
  | word {char : Char} {rest : List Char} (word : isWord char = true)
      (behind : IsPathRest false rest) : IsPathRest false (char :: rest)
  | dot {rest : List Char} (behind : IsPathRest true rest) : IsPathRest false ('.' :: rest)
  | name {char : Char} {rest : List Char} (starts : nameStart.contains char = true)
      (behind : IsPathRest false rest) : IsPathRest true (char :: rest)

theorem isPathRest_of_pathLength {behindDot : Bool} {text rest : List Char}
    (whole : pathLength behindDot (text ++ rest) = text.length + behindDot.toNat) :
    IsPathRest behindDot text := by
  induction text generalizing behindDot with
  | nil =>
    cases behindDot with
    | false => exact .nothing
    | true =>
      cases rest with
      | nil => cases whole
      | cons char rest =>
        simp only [List.nil_append, pathLength] at whole
        split at whole <;> simp at whole
  | cons char text induction =>
    cases behindDot with
    | false =>
      simp only [List.cons_append, pathLength] at whole
      split at whole
      case isTrue word => exact .word word (induction (by simpa using whole))
      case isFalse noWord =>
        split at whole
        case isTrue isDot => exact isDot ▸ .dot (induction whole)
        case isFalse => simp at whole
    | true =>
      simp only [List.cons_append, pathLength] at whole
      split at whole
      case isTrue starts => exact .name starts (induction (by simpa using whole))
      case isFalse => simp at whole

namespace IsPathRest

variable {behindDot : Bool} {text : List Char}

theorem pathLength_append (path : IsPathRest behindDot text) (rest : List Char) :
    pathLength behindDot (text ++ rest) =
      text.length + behindDot.toNat + pathLength false rest := by
  induction path with
  | nothing => simp
  | word word _ induction =>
    simp [pathLength, word, induction]
    omega
  | dot _ induction =>
    have noWord : isWord '.' = false := by decide +kernel
    simp [pathLength, noWord, induction]
  | name starts _ induction =>
    simp [pathLength, starts, induction]
    omega

end IsPathRest

end Proviso.Lexer
