import Proviso.Proofs.Condition.Direct
import Proviso.Proofs.Function.Arguments
import Proviso.Proofs.Grammar.Faults
import Proviso.Proofs.Token.Row

/-!
How the nodes of a condition stand in its text. Each is over whole tokens, over its operands from
left to right, and over text that says what it is. The spans of nodes are those of tokens, merged,
and parentheses around a node belong to none; so what is known of a phrase is that it stands over
some of its tokens, which are in a row.
-/

namespace Proviso

open Lexer (standard InRow)

/-! ## Spans of tokens -/

/-- A span of a text that is not empty and reaches from the start of one of the tokens to the stop
of one. -/
structure Span.StandsOn (text : List Char) (tokens : List Token) (span : Span) : Prop where
  inside : span.LiesIn text
  nonempty : span.start.toNat < span.stop.toNat
  opens : ∃ token ∈ tokens, token.span.start = span.start
  closes : ∃ token ∈ tokens, token.span.stop = span.stop

namespace Span

theorem encloses_merge_left (first second : Span) : (first.merge second).Encloses first := by
  rw [Encloses, start_merge, stop_merge]
  exact ⟨Nat.min_le_left .., Nat.le_max_left ..⟩

theorem encloses_merge_right (first second : Span) : (first.merge second).Encloses second := by
  rw [Encloses, start_merge, stop_merge]
  exact ⟨Nat.min_le_right .., Nat.le_max_right ..⟩

namespace StandsOn

variable {text : List Char} {tokens others : List Token} {first inner second : Span}

theorem of_token {token : Token} (row : standard.InRow text [token]) :
    token.span.StandsOn text [token] := by
  have member := List.mem_singleton_self token
  exact ⟨row.inside token member, row.nonempty token member, ⟨token, member, rfl⟩,
    ⟨token, member, rfl⟩⟩

theorem mono (stands : first.StandsOn text tokens) (among : tokens ⊆ others) :
    first.StandsOn text others where
  inside := stands.inside
  nonempty := stands.nonempty
  opens := stands.opens.imp fun _ opens => ⟨among opens.1, opens.2⟩
  closes := stands.closes.imp fun _ closes => ⟨among closes.1, closes.2⟩

theorem isBefore (row : standard.InRow text (tokens ++ others))
    (firstStands : first.StandsOn text tokens) (secondStands : second.StandsOn text others) :
    first.IsBefore second := by
  rcases firstStands.closes with ⟨last, isLast, stop⟩
  rcases secondStands.opens with ⟨head, isHead, start⟩
  rw [IsBefore, ← stop, ← start]
  exact (List.pairwise_append.mp row.isBefore).2.2 last isLast head isHead

theorem merge (row : standard.InRow text (tokens ++ others))
    (firstStands : first.StandsOn text tokens) (secondStands : second.StandsOn text others) :
    (first.merge second).StandsOn text (tokens ++ others) := by
  have before := isBefore row firstStands secondStands
  have firstNonempty := firstStands.nonempty
  have secondNonempty := secondStands.nonempty
  rcases firstStands.opens with ⟨head, isHead, start⟩
  rcases secondStands.closes with ⟨last, isLast, stop⟩
  have isMerged := merge_of_isBefore firstStands.inside secondStands.inside before
  constructor
  case inside => exact mergeable_liesIn text _ _ firstStands.inside secondStands.inside
  case nonempty =>
    rw [isMerged]
    rw [IsBefore] at before
    dsimp only
    omega
  case opens =>
    rw [isMerged]
    exact ⟨head, List.mem_append_left _ isHead, start⟩
  case closes =>
    rw [isMerged]
    exact ⟨last, List.mem_append_right _ isLast, stop⟩

theorem encloses_merge (firstStands : first.StandsOn text tokens)
    (secondStands : second.StandsOn text others) (behind : first.IsBefore inner)
    (before : inner.IsBefore second) : (first.merge second).Encloses inner := by
  have firstOrdered := firstStands.inside.ordered
  have secondOrdered := secondStands.inside.ordered
  rw [IsBefore] at behind before
  rw [Encloses, start_merge, stop_merge]
  omega

end StandsOn

end Span

/-! ## Nodes -/

namespace Expr

def operands : Expr → List Expr
  | .literal .. | .property .. | .constant .. => []
  | .call _ arguments _ => arguments
  | .not operand _ => [operand]
  | .and left right | .or left right | .relational _ left right _ => [left, right]

theorem parts_eq (expr : Expr) : expr.parts = expr :: expr.operands.flatMap parts := by
  cases expr <;> simp [parts, operands, partsOf_eq_flatMap]

/-- Whether a text says what a node is: a name by itself, and a call by the name of its function, a
parenthesis with blanks in front of it or not, and one that closes. -/
def IsSaidBy (under : List Char) : Expr → Prop
  | .property path _ _ _ => under = path.toList
  | .constant name _ _ => under = name.toList
  | .call function _ _ => ∃ blanks inner, (∀ char ∈ blanks, Text.isBlank char = true) ∧
    under = function.name.toList ++ blanks ++ ['('] ++ inner ++ [')']
  | _ => True

/-- How a node stands in a text: over whole tokens, over its operands from left to right, and over
text that says what it is. -/
structure StandsIn (text : List Char) (tokens : List Token) (node : Expr) : Prop where
  place : node.span.StandsOn text tokens
  encloses : ∀ operand ∈ node.operands, node.span.Encloses operand.span
  apart : node.operands.Pairwise fun left right => left.span.IsBefore right.span
  said : node.IsSaidBy (node.span.slice text)

def Nests (text : List Char) (tokens : List Token) (expr : Expr) : Prop :=
  ∀ node ∈ expr.parts, node.StandsIn text tokens

variable {text : List Char} {tokens others : List Token} {expr : Expr}

theorem Nests.of_operands (stands : expr.StandsIn text tokens)
    (nests : ∀ operand ∈ expr.operands, operand.Nests text tokens) : expr.Nests text tokens := by
  intro node member
  rw [parts_eq, List.mem_cons, List.mem_flatMap] at member
  rcases member with rfl | ⟨operand, isOperand, member⟩
  · exact stands
  · exact nests operand isOperand node member

theorem Nests.standsIn (nests : expr.Nests text tokens) : expr.StandsIn text tokens :=
  nests expr expr.mem_parts_self

theorem Nests.mono (nests : expr.Nests text tokens) (among : tokens ⊆ others) :
    expr.Nests text others := by
  intro node member
  rcases nests node member with ⟨place, encloses, apart, said⟩
  exact ⟨place.mono among, encloses, apart, said⟩

theorem Nests.of_token {token : Token} (row : standard.InRow text [token])
    (isSpan : expr.span = token.span) (noOperands : expr.operands = [])
    (said : expr.IsSaidBy (token.span.slice text)) : expr.Nests text [token] := by
  refine .of_operands ⟨?_, ?_, ?_, ?_⟩ ?_
  · rw [isSpan]
    exact .of_token row
  · rw [noOperands]
    exact List.forall_mem_nil _
  · rw [noOperands]
    exact .nil
  · rwa [isSpan]
  · rw [noOperands]
    exact List.forall_mem_nil _

theorem Nests.withDate (nests : expr.Nests text tokens) : expr.withDate.Nests text tokens := by
  unfold Expr.withDate
  split
  · exact .of_operands ⟨nests.standsIn.place, List.forall_mem_nil _, .nil, trivial⟩
      (List.forall_mem_nil _)
  · exact nests

theorem Nests.of_two {left right : Expr} {joint : Token}
    (row : standard.InRow text (tokens ++ joint :: others)) (leftNests : left.Nests text tokens)
    (rightNests : right.Nests text others) (isOperands : expr.operands = [left, right])
    (isSpan : expr.span = left.span.merge right.span)
    (said : expr.IsSaidBy (expr.span.slice text)) :
    expr.Nests text (tokens ++ joint :: others) := by
  have rightNests : right.Nests text (joint :: others) :=
    rightNests.mono (List.subset_cons_self joint others)
  have leftStands := leftNests.standsIn.place
  have rightStands := rightNests.standsIn.place
  refine .of_operands ⟨?_, ?_, ?_, said⟩ ?_
  · rw [isSpan]
    exact leftStands.merge row rightStands
  · rw [isOperands, isSpan, List.forall_mem_cons, List.forall_mem_singleton]
    exact ⟨Span.encloses_merge_left .., Span.encloses_merge_right ..⟩
  · rw [isOperands, List.pairwise_pair]
    exact leftStands.isBefore row rightStands
  · rw [isOperands, List.forall_mem_cons, List.forall_mem_singleton]
    exact ⟨leftNests.mono (List.subset_append_left ..),
      rightNests.mono (List.subset_append_right ..)⟩

theorem Nests.of_not {sign : Token} (row : standard.InRow text (sign :: tokens))
    (nests : expr.Nests text tokens) :
    (not expr (sign.span.merge expr.span)).Nests text (sign :: tokens) := by
  have signStands := Span.StandsOn.of_token row.head
  refine .of_operands ⟨signStands.merge row nests.standsIn.place, ?_, ?_, trivial⟩ ?_
  · exact List.forall_mem_singleton.mpr (Span.encloses_merge_right ..)
  · exact List.pairwise_singleton ..
  · exact List.forall_mem_singleton.mpr (nests.mono (List.subset_cons_self sign tokens))

theorem Nests.of_call {name : String} {start close : Span} {function : Function}
    {arguments : List Expr}
    (row : standard.InRow text
      (⟨.functionOpen name, start⟩ :: (tokens ++ [⟨.rightParenthesis, close⟩])))
    (nests : ∀ argument ∈ arguments, argument.Nests text tokens)
    (apart : arguments.Pairwise fun left right => left.span.IsBefore right.span)
    (named : function.name = name) :
    (call function arguments (start.merge close)).Nests text
      (⟨.functionOpen name, start⟩ :: (tokens ++ [⟨.rightParenthesis, close⟩])) := by
  have startStands := Span.StandsOn.of_token row.head
  have closeStands := Span.StandsOn.of_token row.tail.right
  have closeBehind := closeStands.mono (List.subset_append_right tokens _)
  refine .of_operands ⟨startStands.merge row closeBehind, ?_, apart, ?_⟩ ?_
  · intro argument member
    have stands := (nests argument member).standsIn.place
    exact startStands.encloses_merge closeStands
      (startStands.isBefore row (stands.mono (List.subset_append_left ..)))
      (stands.isBefore row.tail closeStands)
  · have opening := row.makes _ (List.mem_cons_self ..)
    have closing := row.tail.right.makes _ (List.mem_singleton_self _)
    rcases opening.exists_functionOpen with ⟨blanks, isOpening, allBlank⟩
    have isClosing : close.slice text = [')'] := closing.symbol_eq rfl
    rcases Span.exists_slice_merge startStands.inside closeStands.inside
      (startStands.isBefore row closeBehind) with ⟨inner, isWhole⟩
    refine ⟨blanks, inner, allBlank, ?_⟩
    change (start.merge close).slice text = _
    rw [isWhole, isOpening, isClosing, named]
  · intro argument member
    refine (nests argument member).mono fun token among => ?_
    exact List.mem_cons_of_mem _ (List.mem_append_left _ among)

end Expr

/-! ## Phrases -/

namespace Grammar

variable {scope : Scope} {text : List Char}

theorem NameMeans.nests {path : String} {span : Span} {expr : Expr}
    (means : NameMeans scope path span expr)
    (row : standard.InRow text [⟨.identifier path, span⟩]) :
    expr.Nests text [⟨.identifier path, span⟩] := by
  have makes := row.makes _ (List.mem_singleton_self _)
  have said : span.slice text = path.toList := makes.identifier_eq
  cases means <;> exact .of_token row rfl rfl said

def Category.MeaningNests (text : List Char) (tokens : List Token) :
    (category : Category) → category.Meaning → Prop
  | .value, expr | .comparison, expr | .negation, expr | .conjunction, expr
  | .disjunction, expr => Expr.Nests text tokens expr
  | .arguments, exprs => (∀ expr ∈ exprs, Expr.Nests text tokens expr) ∧
    exprs.Pairwise fun left right => left.span.IsBefore right.span

theorem Phrase.Means.nests {category : Category} {phrase : Phrase category}
    {meaning : category.Meaning} (means : phrase.Means scope meaning)
    (row : standard.InRow text phrase.tokens) :
    category.MeaningNests text phrase.tokens meaning := by
  induction means with
  | literal => exact Expr.Nests.of_token row rfl rfl trivial
  | name means => exact means.nests row
  | emptyCall resolved =>
    have nests : ∀ argument ∈ ([] : List Expr), argument.Nests text [] := List.forall_mem_nil _
    exact Expr.Nests.of_call row nests .nil (Library.name_of_resolve resolved)
  | call _ resolved induction =>
    rcases induction row.tail.left with ⟨nests, apart⟩
    exact Expr.Nests.of_call row nests apart (Library.name_of_resolve resolved)
  | group _ induction =>
    -- The parentheses of a group are tokens of the phrase, but not of what it means.
    have nests := induction row.tail.left
    exact Expr.Nests.mono nests fun token among =>
      List.mem_cons_of_mem _ (List.mem_append_left _ among)
  | single _ induction | plain _ induction | lastConjunct _ induction | lastDisjunct _ induction =>
    exact induction row
  | relation _ _ _ _ firstInduction secondInduction
  | and _ _ _ _ firstInduction secondInduction | or _ _ _ _ firstInduction secondInduction =>
    exact Expr.Nests.of_two row (firstInduction row.left) (secondInduction row.right.tail) rfl rfl
      trivial
  | relationOfMoments _ _ _ _ leftIsDated rightIsDated firstInduction secondInduction =>
    have firstNests := firstInduction row.left
    have secondNests := secondInduction row.right.tail
    rcases leftIsDated.eq_withDate with rfl
    rcases rightIsDated.eq_withDate with rfl
    exact Expr.Nests.of_two row (Expr.Nests.withDate firstNests) (Expr.Nests.withDate secondNests)
      rfl rfl trivial
  | not _ _ induction => exact Expr.Nests.of_not row (induction row.tail)
  | lastArgument _ induction =>
    exact ⟨List.forall_mem_singleton.mpr (induction row), List.pairwise_singleton ..⟩
  | @argument first place rest expr exprs _ _ firstInduction restInduction =>
    have firstNests : Expr.Nests text first.tokens expr := firstInduction row.left
    rcases restInduction row.right.tail with ⟨restNests, apart⟩
    have behind : ∀ other ∈ exprs, Expr.Nests text (⟨.comma, place⟩ :: rest.tokens) other :=
      fun other member => (restNests other member).mono (List.subset_cons_self ..)
    refine ⟨List.forall_mem_cons.mpr ⟨firstNests.mono (List.subset_append_left ..), ?_⟩,
      List.pairwise_cons.mpr ⟨?_, apart⟩⟩
    · exact fun other member => (behind other member).mono (List.subset_append_right ..)
    · exact fun other member =>
        firstNests.standsIn.place.isBefore row (behind other member).standsIn.place

end Grammar

namespace Expr

open Outcome

/-- Every node of a condition that is read from a text stands over whole tokens of it, over its
operands from left to right, and over text that says what it is. -/
theorem standsIn_of_ofTokens {source : String} (short : Text.byteLength source.toList < 2 ^ 32)
    {keepWhitespace : Bool} {tokens : List Token}
    (cut : standard.tokenize source keepWhitespace = .ok tokens) {scope : Scope} {expr : Expr}
    (read : ofTokens scope tokens = .ok expr) :
    ∀ node ∈ expr.parts, node.StandsIn source.toList (TokenStream.ofTokens tokens).tokens := by
  rcases Grammar.ofTokens_eq_ok_iff.mp read with ⟨phrase, spelled, _, means, _⟩
  have row := Lexer.inRow_of_tokenize short cut
  rw [← spelled] at row ⊢
  exact means.nests row

/-- The group around the disjunction and that around the first argument belong to no node, and what
is behind the accent is counted in bytes. -/
theorem standsIn_of_ofTokens_accent :
    let library : Library := ⟨[.ofBody "Known" [.int, .int] .bool fun _ => .ok (.bool true)]⟩
    let kinds : EnumType := ⟨"Kind", [("Home", 1)], by decide⟩
    let scope : Scope := { Scope.people with library, enums := [kinds], maxDepth := 4 }
    let source := "Name=='é' && (!Known ( (Age), 18 ) || Kind.Home==Kind.Home )"
    ∃ tokens expr, Text.byteLength source.toList < 2 ^ 32 ∧
      standard.tokenize source false = .ok tokens ∧ ofTokens scope tokens = .ok expr ∧
      expr.parts.map (fun node => String.ofList (node.span.slice source.toList)) =
        ["Name=='é' && (!Known ( (Age), 18 ) || Kind.Home==Kind.Home", "Name=='é'", "Name", "'é'",
          "!Known ( (Age), 18 ) || Kind.Home==Kind.Home", "!Known ( (Age), 18 )",
          "Known ( (Age), 18 )", "Age", "18", "Kind.Home==Kind.Home", "Kind.Home", "Kind.Home"] ∧
      ∀ node ∈ expr.parts, node.StandsIn source.toList (TokenStream.ofTokens tokens).tokens := by
  intro library kinds scope source
  have accepts : (standard.tokenize source false).toOption.any (fun tokens =>
      (ofTokens scope tokens).toOption.any fun expr => decide
        (expr.parts.map (fun node => String.ofList (node.span.slice source.toList)) =
        ["Name=='é' && (!Known ( (Age), 18 ) || Kind.Home==Kind.Home", "Name=='é'", "Name", "'é'",
          "!Known ( (Age), 18 ) || Kind.Home==Kind.Home", "!Known ( (Age), 18 )",
          "Known ( (Age), 18 )", "Age", "18", "Kind.Home==Kind.Home", "Kind.Home",
          "Kind.Home"])) = true := by
    decide +kernel
  rcases exists_eq_ok_of_any accepts with ⟨tokens, cut, reads⟩
  rcases exists_eq_ok_of_any reads with ⟨expr, read, covers⟩
  have short : Text.byteLength source.toList < 2 ^ 32 := by decide
  exact ⟨tokens, expr, short, cut, read, of_decide_eq_true covers,
    standsIn_of_ofTokens short cut read⟩

end Expr

end Proviso
