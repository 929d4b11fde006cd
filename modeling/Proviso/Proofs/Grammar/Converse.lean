import Proviso.Proofs.Condition.References
import Proviso.Proofs.Grammar.Placement
import Proviso.Proofs.Schema.Agreement

/-!
Comparisons written the other way round. If neither side is the wildcard, a comparison is
consistent exactly when its converse is: the phrase of the one means a comparison exactly when the
phrase of the other means the same with the sides exchanged.
-/

namespace Proviso

open Outcome

/-! ## Types -/

namespace Ty

theorem sameUnderlying_comm (first second : Ty) :
    first.sameUnderlying second = second.sameUnderlying first := by
  rw [sameUnderlying, sameUnderlying, Bool.and_comm, agrees_comm]

theorem plainFamily_of_isNumeric {type : Ty} (numeric : type.isNumeric = true) :
    type.plainFamily = .numeric := by
  cases type <;> first | rfl | cases numeric

theorem isOf_eq_of_sameUnderlying {first second : Ty}
    (same : first.sameUnderlying second = true) (family : Family) :
    first.isOf family = second.isOf family := by
  unfold sameUnderlying at same
  unfold isOf
  rcases Bool.or_eq_true_iff.mp same with numeric | agree
  · rw [Bool.and_eq_true] at numeric
    rw [plainFamily_of_isNumeric numeric.1, plainFamily_of_isNumeric numeric.2]
  · rw [plainFamily_eq_of_agrees agree]

end Ty

namespace Expr

/-- Whether two types ask the same of a comparison. -/
def SameBasis : Option Ty → Option Ty → Prop
  | none, none => True
  | some type, some other =>
    type.family = other.family ∧ type.isOf .datetime = other.isOf .datetime
  | _, _ => False

theorem sameBasis_of_moments {type other : Ty} (moments : type.isOf .datetime = true)
    (otherMoments : other.isOf .datetime = true) : SameBasis (some type) (some other) :=
  ⟨(Ty.family_eq_of_isOf moments rfl).trans (Ty.family_eq_of_isOf otherMoments rfl).symm,
    moments.trans otherMoments.symm⟩

variable {left right : Expr} {relation : Relation}

theorem SameBasis.refl (compared : Option Ty) : SameBasis compared compared := by
  cases compared with
  | none => trivial
  | some type => exact ⟨rfl, rfl⟩

theorem comparedType_converse (leftPlain : left.isWildcard = false)
    (rightPlain : right.isWildcard = false) {compared : Option Ty}
    (checked : comparedType relation left right = .ok compared) :
    ∃ other, comparedType relation.converse right left = .ok other ∧ SameBasis compared other := by
  simp only [comparedType, leftPlain, rightPlain, Bool.or_false] at checked ⊢
  by_cases leftNull : left.isNullLiteral = true
  · by_cases rightNull : right.isNullLiteral = true
    · simp only [leftNull, rightNull, Bool.and_self, if_true] at checked ⊢
      exact ⟨none, rfl, Except.ok.inj checked ▸ trivial⟩
    · simp only [leftNull, rightNull, Bool.and_false, Bool.and_true, Bool.false_eq_true, if_true,
        if_false] at checked ⊢
      exact ⟨_, rfl, Except.ok.inj checked ▸ .refl _⟩
  by_cases rightNull : right.isNullLiteral = true
  · simp only [leftNull, rightNull, Bool.and_false, Bool.and_true, Bool.false_eq_true, if_true,
      if_false] at checked ⊢
    exact ⟨_, rfl, Except.ok.inj checked ▸ .refl _⟩
  simp only [leftNull, rightNull, Bool.and_self, Bool.false_eq_true, if_false] at checked ⊢
  by_cases leftMoments : (left.type.isOf .datetime && right.dateLiteral?.isSome) = true
  · rw [if_pos leftMoments] at checked
    cases checked
    rw [if_pos leftMoments]
    rw [Bool.and_eq_true] at leftMoments
    by_cases rightMoments : (right.type.isOf .datetime && left.dateLiteral?.isSome) = true
    · rw [if_pos rightMoments]
      rw [Bool.and_eq_true] at rightMoments
      exact ⟨_, rfl, sameBasis_of_moments leftMoments.1 rightMoments.1⟩
    · rw [if_neg rightMoments]
      exact ⟨_, rfl, .refl _⟩
  rw [if_neg leftMoments] at checked ⊢
  by_cases rightMoments : (right.type.isOf .datetime && left.dateLiteral?.isSome) = true
  · rw [if_pos rightMoments] at checked ⊢
    exact ⟨_, rfl, Except.ok.inj checked ▸ .refl _⟩
  rw [if_neg rightMoments] at checked ⊢
  by_cases same : left.type.sameUnderlying right.type = true
  · rw [if_pos same] at checked
    cases checked
    rw [Ty.sameUnderlying_comm] at same
    rw [if_pos same]
    rw [Ty.sameUnderlying_comm] at same
    exact ⟨_, rfl, Ty.family_eq_of_sameUnderlying same, Ty.isOf_eq_of_sameUnderlying same _⟩
  · rw [if_neg same] at checked
    cases checked

theorem operandType_converse (leftPlain : left.isWildcard = false)
    (rightPlain : right.isWildcard = false) {type : Ty}
    (consistent : operandType relation left right = .ok type) :
    ∃ other, operandType relation.converse right left = .ok other ∧
      other.isOf .datetime = type.isOf .datetime := by
  rcases bind_eq_ok.mp consistent with ⟨compared, checked, ordered⟩
  rcases comparedType_converse leftPlain rightPlain checked with ⟨other, otherChecked, same⟩
  cases compared with
  | none =>
    cases other with
    | none =>
      cases ordered
      exact ⟨_, bind_eq_ok.mpr ⟨none, otherChecked, rfl⟩, rfl⟩
    | some basis => cases same
  | some basis =>
    cases other with
    | none => cases same
    | some otherBasis =>
      dsimp only at ordered
      split at ordered
      case isTrue => cases ordered
      case isFalse allowed =>
        cases ordered
        rw [same.1, ← Relation.isOrdering_converse] at allowed
        refine ⟨_, bind_eq_ok.mpr ⟨some otherBasis, otherChecked, if_neg allowed⟩, ?_⟩
        rw [isOf_commonType, isOf_commonType, same.2]

end Expr

/-! ## Phrases -/

namespace Grammar

variable {scope : Scope} {first second : Phrase .value} {relation : Relation}

def Phrase.IsPlain (scope : Scope) (phrase : Phrase .value) : Prop :=
  ∀ expr : Expr, phrase.Means scope expr → expr.isWildcard = false

/-- A comparison has a meaning if its converse has: the same sides exchanged. -/
theorem Phrase.Means.converse (firstPlain : first.IsPlain scope)
    (secondPlain : second.IsPlain scope) {place : Span} {expr : Expr}
    (means : (Phrase.relation first relation place second).Means scope expr) (other : Span) :
    ∃ left right type otherType, expr = .relational relation left right type ∧
      (Phrase.relation second relation.converse other first).Means scope
        (.relational relation.converse right left otherType) := by
  cases means with
  | relation firstMeans secondMeans consistent noMoments =>
    rcases Expr.operandType_converse (firstPlain _ firstMeans) (secondPlain _ secondMeans)
      consistent with ⟨otherType, otherConsistent, same⟩
    exact ⟨_, _, _, otherType, rfl,
      .relation secondMeans firstMeans otherConsistent (same.trans noMoments)⟩
  | relationOfMoments firstMeans secondMeans consistent moments leftIsDated rightIsDated =>
    rcases Expr.operandType_converse (firstPlain _ firstMeans) (secondPlain _ secondMeans)
      consistent with ⟨otherType, otherConsistent, same⟩
    exact ⟨_, _, _, otherType, rfl,
      .relationOfMoments secondMeans firstMeans otherConsistent (same.trans moments) rightIsDated
        leftIsDated⟩

/-! ## Reading -/

theorem kind_ne_endOfInput {category : Category} (phrase : Phrase category) :
    ∀ kind ∈ phrase.tokens.map Token.kind, kind ≠ .endOfInput := by
  induction phrase with
  | literal kind value denotes span =>
    intro other member isEnd
    have same : other = kind := List.mem_singleton.mp member
    rw [← same, isEnd] at denotes
    cases denotes
  | _ => simp_all [Phrase.tokens, or_imp, forall_and]

variable {phrase : Phrase .disjunction} {tokens : List Token}

theorem tokens_ofTokens (same : tokens.map Token.kind = phrase.tokens.map Token.kind)
    (stop : Span) : (TokenStream.ofTokens (tokens ++ [⟨.endOfInput, stop⟩])).tokens = tokens := by
  rw [ofTokens_append_end]
  intro token member
  refine kind_ne_endOfInput phrase _ ?_
  rw [← same]
  exact List.mem_map_of_mem member

theorem exists_means_of_ofTokens (same : tokens.map Token.kind = phrase.tokens.map Token.kind)
    {stop : Span} {expr : Expr}
    (read : Expr.ofTokens scope (tokens ++ [⟨.endOfInput, stop⟩]) = .ok expr) :
    ∃ meaning : Expr, phrase.Means scope meaning ∧ phrase.depth ≤ scope.maxDepth ∧
      meaning.type = .bool ∧ expr.SameButPlaces meaning := by
  rcases ofTokens_eq_ok_iff.mp read with ⟨placed, spelled, shallow, means, isBool⟩
  rw [tokens_ofTokens same] at spelled
  rw [← spelled] at same
  rcases placed.exists_placed same.symm with ⟨origin, originSpelled, isPlaced⟩
  rcases Phrase.tokens_injective originSpelled with rfl
  rcases isPlaced.means scope expr means with ⟨meaning, means, samePlaces⟩
  have samePlaces : expr.SameButPlaces meaning := samePlaces
  exact ⟨meaning, means, isPlaced.depth ▸ shallow, samePlaces.type_eq ▸ isBool, samePlaces⟩

theorem exists_ofTokens_of_means (same : tokens.map Token.kind = phrase.tokens.map Token.kind)
    (stop : Span) {meaning : Expr} (means : phrase.Means scope meaning)
    (shallow : phrase.depth ≤ scope.maxDepth) (isBool : meaning.type = .bool) :
    ∃ expr, Expr.ofTokens scope (tokens ++ [⟨.endOfInput, stop⟩]) = .ok expr ∧
      expr.SameButPlaces meaning := by
  rcases phrase.exists_placed same with ⟨placed, spelled, isPlaced⟩
  rcases isPlaced.means scope meaning means with ⟨expr, placedMeans, samePlaces⟩
  have samePlaces : meaning.SameButPlaces expr := samePlaces
  refine ⟨expr, ofTokens_eq_ok_iff.mpr ⟨placed, ?_, isPlaced.depth ▸ shallow, placedMeans, ?_⟩,
    Eq.symm samePlaces⟩
  · rw [tokens_ofTokens same, spelled]
  · rw [← samePlaces.type_eq, isBool]

def Phrase.comparing (first : Phrase .value) (relation : Relation) (second : Phrase .value) :
    Phrase .disjunction :=
  .lastDisjunct (.lastConjunct (.plain (.relation first relation .zero second)))

theorem comparing_means_iff {expr : Expr} :
    (Phrase.comparing first relation second).Means scope expr ↔
      (Phrase.relation first relation .zero second).Means scope expr := by
  constructor
  · intro means
    cases means with
    | lastDisjunct means =>
      cases means with
      | lastConjunct means =>
        cases means with
        | plain means => exact means
  · exact fun means => .lastDisjunct (.lastConjunct (.plain means))

end Grammar

end Proviso
