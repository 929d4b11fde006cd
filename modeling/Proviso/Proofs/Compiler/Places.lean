import Proviso.Proofs.Compiler.Faults
import Proviso.Proofs.Fault.Report

/-!
Where the faults of a text point. The place of a fault is a part of the text, cut between
characters: those of tokens are, merging two keeps it so, and a text that cannot be cut is blamed on
a whole character. Only the limit on the length of texts is a number of bytes that knows of no
characters, and may lie inside one.
-/

namespace Proviso

open Outcome
open Text (byteLength Boundary lastLine)

/-! ## Spans in a text -/

theorem Text.Boundary.le_byteLength {text : List Char} {position : Nat}
    (boundary : Boundary text position) : position ≤ byteLength text := by
  rcases boundary with ⟨before, after, rfl, rfl⟩
  rw [byteLength_append]
  exact Nat.le_add_right ..

namespace Span

structure LiesIn (text : List Char) (span : Span) : Prop where
  ordered : span.start.toNat ≤ span.stop.toNat
  start : Boundary text span.start.toNat
  stop : Boundary text span.stop.toNat

/-- That a span is the place of a part of a text: the part is what is sliced out, and the line and
the column of its start are found for it. -/
def PointsAt (text : List Char) (span : Span) : Prop :=
  ∃ before under after, text = before ++ under ++ after ∧
    span.start.toNat = byteLength before ∧
    span.stop.toNat = byteLength before + byteLength under ∧
    span.slice text = under ∧
    Location.ofPosition text span.start.toNat =
      ⟨before.count '\n' + 1, (lastLine before).length + 1⟩

theorem mergeable_liesIn (text : List Char) : Mergeable (LiesIn text) := by
  intro first second inFirst inSecond
  constructor
  case ordered =>
    rw [start_merge, stop_merge]
    exact Nat.le_trans (Nat.min_le_left ..) (Nat.le_trans inFirst.ordered (Nat.le_max_left ..))
  case start =>
    rw [start_merge]
    rcases Nat.le_total first.start.toNat second.start.toNat with less | less
    · rw [Nat.min_eq_left less]
      exact inFirst.start
    · rw [Nat.min_eq_right less]
      exact inSecond.start
  case stop =>
    rw [stop_merge]
    rcases Nat.le_total first.stop.toNat second.stop.toNat with less | less
    · rw [Nat.max_eq_right less]
      exact inSecond.stop
    · rw [Nat.max_eq_left less]
      exact inFirst.stop

theorem liesIn_ofNat {text before under after : List Char} (isText : text = before ++ under ++ after)
    (short : byteLength text < 2 ^ 32) :
    (ofNat (byteLength before) (byteLength before + byteLength under)).LiesIn text := by
  have total : byteLength text = byteLength before + byteLength under + byteLength after := by
    rw [isText, Text.byteLength_append, Text.byteLength_append]
  constructor
  case ordered =>
    rw [start_ofNat, stop_ofNat, Nat.mod_eq_of_lt (by omega), Nat.mod_eq_of_lt (by omega)]
    exact Nat.le_add_right ..
  case start =>
    rw [start_ofNat, Nat.mod_eq_of_lt (by omega)]
    exact ⟨before, under ++ after, by rw [isText, List.append_assoc], rfl⟩
  case stop =>
    rw [stop_ofNat, Nat.mod_eq_of_lt (by omega)]
    exact ⟨before ++ under, after, isText, Text.byteLength_append ..⟩

theorem LiesIn.pointsAt {text : List Char} {span : Span} (inside : span.LiesIn text) :
    span.PointsAt text := by
  rcases inside.start with ⟨before, rest, isText, start⟩
  rcases inside.stop with ⟨covered, after, isCut, stop⟩
  have split : ∃ under, covered = before ++ under ∧ rest = under ++ after := by
    rcases List.append_eq_append_iff.mp (isText.symm.trans isCut) with
      ⟨under, isCovered, isRest⟩ | ⟨beyond, isBefore, isAfter⟩
    · exact ⟨under, isCovered, isRest⟩
    · have ordered := inside.ordered
      rw [← start, ← stop, isBefore, Text.byteLength_append] at ordered
      have counted := Text.length_le_byteLength beyond
      have isEmpty : beyond = [] := List.length_eq_zero_iff.mp (by omega)
      subst isEmpty
      exact ⟨[], by simpa using isBefore.symm, by simpa using isAfter.symm⟩
  rcases split with ⟨under, rfl, rfl⟩
  rw [Text.byteLength_append] at stop
  refine ⟨before, under, after, isCut, start.symm, stop.symm, ?_, ?_⟩
  · rw [slice, isCut, ← start, ← stop, Text.slice?_append]
    rfl
  · rw [isText]
    exact Report.ofPosition_start start.symm

end Span

/-! ## Tokens -/

theorem Token.Tile.boundary {text : List Char} {position stop : Nat} {tokens : List Token}
    (tile : Tile text position tokens stop) : Boundary text position := by
  cases tile with
  | nothing boundary => exact boundary
  | token boundary => exact boundary

theorem Token.Tile.liesIn {text : List Char} {position stop : Nat} {tokens : List Token}
    (tile : Tile text position tokens stop) {token : Token} (member : token ∈ tokens) :
    token.span.LiesIn text := by
  induction tile with
  | nothing => cases member
  | token boundary nonempty others induction =>
    rcases List.mem_cons.mp member with rfl | member
    · exact ⟨Nat.le_of_lt nonempty, boundary, others.boundary⟩
    · exact induction member

namespace Lexer

variable {lexer : Lexer} {source : String} (short : byteLength source.toList < 2 ^ 32)

include short

theorem liesIn_of_tokenize {tokens : List Token} (cut : lexer.tokenize source false = .ok tokens) :
    (∃ token ∈ tokens, token.kind.isEnd = true) ∧
      ∀ token ∈ tokens, token.span.LiesIn source.toList := by
  rw [tokenize_without_whitespace] at cut
  rcases map_eq_ok.mp cut with ⟨all, allCut, rfl⟩
  rcases tile_of_tokenize short allCut with ⟨tiles, stop, rfl, tile, start, finish⟩
  constructor
  · refine ⟨⟨.endOfInput, stop⟩, List.mem_filter.mpr ⟨by simp, rfl⟩, rfl⟩
  · intro token member
    rcases List.mem_append.mp (List.mem_filter.mp member).1 with inside | isLast
    · exact tile.liesIn inside
    · rcases List.mem_singleton.mp isLast with rfl
      have whole : Boundary source.toList (byteLength source.toList) :=
        ⟨source.toList, [], (List.append_nil _).symm, rfl⟩
      refine ⟨?_, ?_, ?_⟩
      · exact Nat.le_of_eq (start.trans finish.symm)
      · rwa [start]
      · rwa [finish]

theorem tokenize_failsOnly_inside :
    FailsOnly (fun fault => ∀ span, fault.span? = some span → span.LiesIn source.toList)
      (lexer.tokenize source false) := by
  intro fault fails span located
  rcases lexer.tokenize_failsOnly source false fault fails with
    ⟨residual, position, rfl⟩ | ⟨written, rfl, _⟩
  · rcases scans_of_lexical short fails with
      ⟨before, after, tokens, isText, rfl, nonempty, isPrefix, _, _⟩
    rcases List.exists_cons_of_ne_nil nonempty with ⟨char, rest, isResidual⟩
    rcases isPrefix with ⟨behind, isAfter⟩
    have isSplit : source.toList = before ++ [char] ++ (rest ++ behind) := by
      rw [isText, ← isAfter, isResidual, List.append_assoc]
      rfl
    have size : Fault.firstCharSize residual = byteLength [char] := by
      rw [Fault.firstCharSize, isResidual]
      rfl
    cases located
    rw [size]
    exact Span.liesIn_ofNat isSplit short
  · cases located

end Lexer

theorem TokenStream.tokensAt_ofTokens {place : Span → Prop} {tokens : List Token}
    (ends : ∃ token ∈ tokens, token.kind.isEnd = true) (inside : Grammar.TokensAt place tokens) :
    Grammar.TokensAt place (ofTokens tokens).tokens ∧ place (ofTokens tokens).stop := by
  unfold ofTokens
  split
  case h_1 token found =>
    refine ⟨fun other member => inside other ((List.takeWhile_prefix _).subset member), ?_⟩
    exact inside token (List.mem_of_find?_eq_some found)
  case h_2 missing =>
    rcases ends with ⟨token, member, isEnd⟩
    exact absurd isEnd (List.find?_eq_none.mp missing token member)

/-! ## Compiling -/

namespace Compiler

theorem compileFresh_failsOnly_inside (compiler : Compiler) (context : ObjectType)
    {source : String} (short : byteLength source.toList < 2 ^ 32) :
    FailsOnly (fun fault => ∀ span, fault.span? = some span → span.LiesIn source.toList)
      (compiler.compileFresh context source) := by
  intro fault fails
  unfold compileFresh at fails
  cases cut : compiler.lexer.tokenize source false with
  | error cause =>
    rw [cut] at fails
    cases fails
    exact Lexer.tokenize_failsOnly_inside short _ cut
  | ok tokens =>
    rw [cut] at fails
    rcases Lexer.liesIn_of_tokenize short cut with ⟨ends, inside⟩
    rcases TokenStream.tokensAt_ofTokens ends inside with ⟨tokensInside, stopInside⟩
    have reading := (Expr.ofTokens_meets (Span.mergeable_liesIn source.toList)
      (compiler.scope context) tokensInside stopInside).failsOnly
    refine (reading.imp fun _ found => found.2).bind (fun expr => ?_) fault fails
    have naming := References.ofExpr_failsOnly expr
    refine (naming.imp ?_).bind fun _ => failsOnly_ok _
    rintro _ ⟨_, _, _, _, rfl⟩ span located
    cases located

/-- That a text is refused for its length, by a limit that lies inside one of its characters. -/
structure LimitInside (compiler : Compiler) (source : String) (fault : Fault) : Prop where
  long : compiler.config.maxLength < byteLength source.toList
  inside : ¬ Boundary source.toList compiler.config.maxLength
  fault_eq : fault = .grammar (.tooLong (byteLength source.toList) compiler.config.maxLength)
    (Span.point compiler.config.maxLength)

/-- The fault of a text that is refused points at a part of it, unless the text is too long and the
limit lies inside a character; it never points beyond the text. -/
theorem compile_pointsAt {compiler : Compiler} {context : ObjectType} {source : String}
    (short : byteLength source.toList < 2 ^ 32) {fault : Fault}
    (refused : (compiler.compile context source).1 = .error fault) {span : Span}
    (located : fault.span? = some span) :
    span.start.toNat ≤ span.stop.toNat ∧ span.stop.toNat ≤ byteLength source.toList ∧
      (span.PointsAt source.toList ∨ compiler.LimitInside source fault) := by
  have outcome := compiler.compileOutcome context source
  generalize compiler.compile context source = result at outcome refused
  cases outcome with
  | tooLong long =>
    cases refused
    cases located
    let limit := compiler.config.maxLength
    have word : limit % 2 ^ 32 = limit := Nat.mod_eq_of_lt (Nat.lt_trans long short)
    have start : (Span.point limit).start.toNat = limit := by rw [Span.point, Span.start_ofNat, word]
    have stop : (Span.point limit).stop.toNat = limit := by rw [Span.point, Span.stop_ofNat, word]
    refine ⟨Nat.le_of_eq (start.trans stop.symm), stop ▸ Nat.le_of_lt long, ?_⟩
    by_cases boundary : Boundary source.toList limit
    · have inside : (Span.point limit).LiesIn source.toList :=
        ⟨Nat.le_of_eq (start.trans stop.symm), start.symm ▸ boundary, stop.symm ▸ boundary⟩
      exact .inl inside.pointsAt
    · exact .inr ⟨long, boundary, rfl⟩
  | refused _ _ fails =>
    cases refused
    have inside := compiler.compileFresh_failsOnly_inside context short _ fails span located
    exact ⟨inside.ordered, inside.stop.le_byteLength, .inl inside.pointsAt⟩
  | known | fresh => cases refused

/-- No rule makes a token of the last character, which takes two bytes. -/
theorem compile_pointsAt_accent : ∃ fault,
    byteLength "18<=é".toList < 2 ^ 32 ∧ (ofAges.compile .person "18<=é").1 = .error fault ∧
      fault.span? = some (Span.ofNat 4 6) ∧ (Span.ofNat 4 6).PointsAt "18<=é".toList := by
  have refuses : (fault? (ofAges.compile .person "18<=é").1).any
      (fun fault => fault.span? == some (Span.ofNat 4 6)) = true := by
    decide +kernel
  rcases exists_eq_error_of_any refuses with ⟨fault, refused, isPlace⟩
  have short : byteLength "18<=é".toList < 2 ^ 32 := by decide
  have located : fault.span? = some (Span.ofNat 4 6) := beq_iff_eq.mp isPlace
  refine ⟨fault, short, refused, located, ?_⟩
  rcases compile_pointsAt short refused located with ⟨_, _, points | limited⟩
  · exact points
  · exact absurd limited.long (by decide)

/-- A limit of seven bytes lies inside a character, and the fault points into it: its column is that
of the end of the text. -/
theorem not_pointsAt_limit :
    let compiler : Compiler := { ofAges with config := { maxLength := 7 } }
    let fault : Fault := .grammar (.tooLong 9 7) (Span.point 7)
    byteLength "A == 'é'".toList < 2 ^ 32 ∧
      (compiler.compile .person "A == 'é'").1 = .error fault ∧
      fault.span? = some (Span.point 7) ∧ ¬ Boundary "A == 'é'".toList 7 ∧
      ¬ (Span.point 7).PointsAt "A == 'é'".toList ∧
      Location.ofPosition "A == 'é'".toList 7 = ⟨1, "A == 'é'".toList.length + 1⟩ := by
  intro compiler fault
  have length : byteLength "A == 'é'".toList = 9 := by decide
  have long : compiler.config.maxLength < byteLength "A == 'é'".toList := by decide
  have inside : ¬ Boundary "A == 'é'".toList 7 := by
    rw [← Text.dropBytes?_isSome_iff]
    decide
  refine ⟨by decide, ?_, rfl, inside, ?_, by decide⟩
  · simp only [compile, length]
    rfl
  · rintro ⟨before, under, after, isText, start, _⟩
    exact inside ⟨before, under ++ after, by rw [isText, List.append_assoc], start.symm⟩

end Compiler

end Proviso
