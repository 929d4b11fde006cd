import Proviso.Proofs.Value.Rank

/-!
The laws of order. Where values can be put in order at all, the four relations of order fit each
other and equality, and being less is irreflexive and transitive. Whole numbers and doubles mix:
the rank of a whole number is that of its double, so that a chain of numbers in which a double
occurs goes up by ranks.
-/

namespace Proviso

namespace Value

open Calendar.Moment (compareParts)

/-! ## Orders by rank -/

theorem rankOrder_eq_some {caseSensitive : Bool} {first second : Value} {ordering : Ordering} :
    rankOrder caseSensitive first second = some ordering ↔
      ∃ parts others, first.rank caseSensitive = some parts ∧
        second.rank caseSensitive = some others ∧ compareParts parts others = ordering := by
  simp only [rankOrder, Option.bind_eq_some_iff, Option.map_eq_some_iff]
  constructor
  · rintro ⟨parts, isFirst, others, isSecond, compared⟩
    exact ⟨parts, others, isFirst, isSecond, compared⟩
  · rintro ⟨parts, others, isFirst, isSecond, compared⟩
    exact ⟨parts, isFirst, others, isSecond, compared⟩

theorem rankOrder_int (caseSensitive : Bool) {word other : Int64} (le : word.toInt ≤ other.toInt) :
    ∃ ordering, rankOrder caseSensitive (.int word) (.int other) = some ordering ∧
      ordering.isLE = true := by
  rcases floatRank_intToFloat word with ⟨parts, isFirst, placed⟩
  rcases floatRank_intToFloat other with ⟨others, isSecond, placed'⟩
  exact ⟨_, rankOrder_eq_some.mpr ⟨parts, others, isFirst, isSecond, rfl⟩, placed.isLE placed' le⟩

theorem rankOrder_lt_of_lt_of_isLE {caseSensitive : Bool} {first second third : Value}
    {ordering : Ordering} (below : rankOrder caseSensitive first second = some .lt)
    (further : rankOrder caseSensitive second third = some ordering)
    (le : ordering.isLE = true) : rankOrder caseSensitive first third = some .lt := by
  rcases rankOrder_eq_some.mp below with ⟨parts, others, isFirst, isSecond, less⟩
  rcases rankOrder_eq_some.mp further with ⟨others', lasts, isSecond', isThird, rfl⟩
  cases isSecond.symm.trans isSecond'
  exact rankOrder_eq_some.mpr
    ⟨parts, lasts, isFirst, isThird, Std.TransCmp.lt_of_lt_of_isLE less le⟩

theorem rankOrder_lt_of_isLE_of_lt {caseSensitive : Bool} {first second third : Value}
    {ordering : Ordering} (below : rankOrder caseSensitive first second = some ordering)
    (le : ordering.isLE = true) (further : rankOrder caseSensitive second third = some .lt) :
    rankOrder caseSensitive first third = some .lt := by
  rcases rankOrder_eq_some.mp below with ⟨parts, others, isFirst, isSecond, rfl⟩
  rcases rankOrder_eq_some.mp further with ⟨others', lasts, isSecond', isThird, less⟩
  cases isSecond.symm.trans isSecond'
  exact rankOrder_eq_some.mpr
    ⟨parts, lasts, isFirst, isThird, Std.TransCmp.lt_of_isLE_of_lt le less⟩

/-! ## Contents -/

theorem kindred_of_orderContent {caseSensitive : Bool} {first second : Value}
    {ordering : Ordering}
    (ordered : orderContent caseSensitive first second = .ok (some ordering)) :
    first.Kindred second := by
  cases first with
  | object record =>
    cases second with
    | object other => cases ordered
    | scalar other => cases other <;> cases ordered
  | scalar first =>
    cases second with
    | object other => cases first <;> cases ordered
    | scalar second => cases first <;> cases second <;> first | cases ordered; done | constructor

theorem orderContent_of_not_kindred {caseSensitive : Bool} {first second : Value}
    (present : first ≠ .null) (present' : second ≠ .null) (alien : ¬ first.Kindred second) :
    orderContent caseSensitive first second = .error (.unordered first.kind second.kind) := by
  cases first with
  | object record =>
    cases second with
    | object other => rfl
    | scalar other => cases other <;> first | rfl | exact absurd rfl present'
  | scalar first =>
    cases second with
    | object other => cases first <;> first | rfl | exact absurd rfl present
    | scalar second =>
      cases first <;> cases second <;>
        first
        | rfl
        | exact absurd rfl present
        | exact absurd rfl present'
        | exact absurd (by constructor) alien

theorem orderContent_of_rankOrder {caseSensitive : Bool} {first second : Value}
    (kindred : first.Kindred second) (below : rankOrder caseSensitive first second = some .lt) :
    orderContent caseSensitive first second = .ok (some .lt) := by
  rcases orderContent_of_kindred caseSensitive kindred with ranked | ⟨word, other, rfl, rfl, ints⟩
  · rw [ranked, below]
  · by_cases less : word.toInt < other.toInt
    · rw [ints, Int.compare_eq_lt.mpr less]
    · rcases rankOrder_int caseSensitive (Int.not_lt.mp less) with
        ⟨ordering, converse, le⟩
      rcases rankOrder_eq_some.mp (rankOrder_lt_of_lt_of_isLE below converse le) with
        ⟨parts, others, isFirst, isSecond, less⟩
      cases isFirst.symm.trans isSecond
      rw [Calendar.Moment.compareParts_self] at less
      cases less

/-- What is less has a lower rank, or both are whole numbers and the rank is not higher. -/
theorem rankOrder_of_orderContent {caseSensitive : Bool} {first second : Value}
    (less : orderContent caseSensitive first second = .ok (some .lt)) :
    rankOrder caseSensitive first second = some .lt ∨
      ∃ (word other : Int64) (ordering : Ordering), first = .int word ∧ second = .int other ∧
        word.toInt < other.toInt ∧ rankOrder caseSensitive first second = some ordering ∧
          ordering.isLE = true := by
  rcases orderContent_of_kindred caseSensitive (kindred_of_orderContent less) with
    ranked | ⟨word, other, rfl, rfl, ints⟩
  · left
    rw [ranked] at less
    injection less
  · right
    rw [ints] at less
    have below : word.toInt < other.toInt :=
      Int.compare_eq_lt.mp (Option.some.inj (Except.ok.inj less))
    rcases rankOrder_int caseSensitive (Int.le_of_lt below) with
      ⟨ordering, ranked, le⟩
    exact ⟨word, other, ordering, rfl, rfl, below, ranked, le⟩

/-- Along a chain the ranks go up, unless all of it are whole numbers. -/
theorem orderContent_lt_trans {caseSensitive : Bool} {first second third : Value}
    (less : orderContent caseSensitive first second = .ok (some .lt))
    (further : orderContent caseSensitive second third = .ok (some .lt)) :
    orderContent caseSensitive first third = .ok (some .lt) := by
  have kindred : first.Kindred third :=
    (kindred_of_orderContent less).trans (kindred_of_orderContent further)
  rcases rankOrder_of_orderContent less with
    below | ⟨word, other, ordering, rfl, rfl, below, ranked, le⟩
  · apply orderContent_of_rankOrder kindred
    rcases rankOrder_of_orderContent further with
      below' | ⟨_, _, ordering, _, _, _, ranked, le⟩
    · exact rankOrder_lt_of_lt_of_isLE below below' rfl
    · exact rankOrder_lt_of_lt_of_isLE below ranked le
  · rcases rankOrder_of_orderContent further with
      below' | ⟨middle, last, _, isMiddle, rfl, below', _⟩
    · exact orderContent_of_rankOrder kindred (rankOrder_lt_of_isLE_of_lt ranked le below')
    · cases isMiddle
      exact congrArg (Except.ok ∘ some) (Int.compare_eq_lt.mpr (Int.lt_trans below below'))

theorem sameContent_iff {caseSensitive : Bool} {first second : Value}
    (kindred : first.Kindred second) :
    sameContent caseSensitive first second = true ↔
      orderContent caseSensitive first second = .ok (some .eq) := by
  cases kindred with
  | strings text other =>
    change (Text.comparable caseSensitive text == Text.comparable caseSensitive other) = true ↔
      Except.ok (some (Text.order _ _)) = _
    rw [beq_iff_eq, Text.order_eq_compareParts, Except.ok.injEq, Option.some.injEq,
      Std.LawfulEqCmp.compare_eq_iff_eq]
    exact ⟨congrArg Text.codes, Text.codes_injective⟩
  | moments moment other =>
    change (moment == other) = true ↔
      Except.ok (some (compareParts moment.parts other.parts)) = _
    rw [beq_iff_eq, Except.ok.injEq, Option.some.injEq, Std.LawfulEqCmp.compare_eq_iff_eq]
    exact ⟨congrArg Calendar.Moment.parts, Calendar.Moment.parts_injective⟩
  | ints word other =>
    change (word == other) = true ↔ Except.ok (some (Ord.compare word.toInt other.toInt)) = _
    rw [beq_iff_eq, Except.ok.injEq, Option.some.injEq, Int.compare_eq_eq, Int64.toInt_inj]
  | intFloat | floatInt | floats =>
    change (_ == _) = true ↔ Except.ok (floatOrder _ _) = _
    rw [beq_iff_partsOrder, floatOrder_eq_partsOrder, Except.ok.injEq]

/-- The double that is no number has no order, not even with itself. -/
def isNaN : Value → Bool
  | .float number => number.isNaN
  | _ => false

theorem exists_rank (caseSensitive : Bool) {first second : Value}
    (kindred : first.Kindred second) (isNumber : first.isNaN = false) :
    ∃ parts, first.rank caseSensitive = some parts := by
  have float {number : Float} (isNumber : number.isNaN = false) :
      ∃ parts, floatRank number = some parts :=
    Option.isSome_iff_exists.mp ((isSome_floatRank number).trans (by rw [isNumber]; rfl))
  cases kindred with
  | strings | moments => exact ⟨_, rfl⟩
  | ints word | intFloat word =>
    rcases floatRank_intToFloat word with ⟨parts, ranked, _⟩
    exact ⟨parts, ranked⟩
  | floatInt | floats => exact float isNumber

theorem exists_orderContent (caseSensitive : Bool) {first second : Value}
    (kindred : first.Kindred second) (isNumber : first.isNaN = false)
    (isNumber' : second.isNaN = false) :
    ∃ ordering, orderContent caseSensitive first second = .ok (some ordering) := by
  rcases exists_rank caseSensitive kindred isNumber with ⟨parts, isFirst⟩
  rcases exists_rank caseSensitive kindred.symm isNumber' with
    ⟨others, isSecond⟩
  rcases orderContent_of_kindred caseSensitive kindred with ranked | ⟨word, other, rfl, rfl, ints⟩
  · exact ⟨_, ranked.trans
      (congrArg Except.ok (rankOrder_eq_some.mpr ⟨parts, others, isFirst, isSecond, rfl⟩))⟩
  · exact ⟨_, ints⟩

theorem orderContent_self_ne_lt {caseSensitive : Bool} {value : Value} :
    orderContent caseSensitive value value ≠ .ok (some .lt) := by
  intro less
  rcases rankOrder_of_orderContent less with below | ⟨word, other, _, rfl, same, below, _⟩
  · rcases rankOrder_eq_some.mp below with ⟨parts, others, isFirst, isSecond, less⟩
    cases isFirst.symm.trans isSecond
    rw [Calendar.Moment.compareParts_self] at less
    cases less
  · cases same
    exact Int.lt_irrefl _ below

/-! ## Relations -/

theorem compare_ordering_eq_ok {caseSensitive : Bool} {dependent target : Value} {holds : Bool} :
    (compare .less caseSensitive dependent target = .ok holds ↔
      ∃ result, order caseSensitive dependent target = .ok result ∧
        (result == some .lt) = holds) ∧
    (compare .greater caseSensitive dependent target = .ok holds ↔
      ∃ result, order caseSensitive dependent target = .ok result ∧
        (result == some .gt) = holds) := by
  simp only [compare]
  cases order caseSensitive dependent target <;> simp [Except.map]

/-- Where no order is defined: neither side is null, and they are not two texts, two moments or
two numbers. A wildcard next to what is no text stands for null. -/
def Unordered (dependent target : Value) : Prop :=
  dependent ≠ .null ∧ orderedTarget dependent target ≠ .null ∧ ¬ dependent.Kindred target

theorem orderedTarget_of_ne_null {dependent target : Value}
    (present : orderedTarget dependent target ≠ .null) :
    orderedTarget dependent target = target := by
  unfold orderedTarget at present ⊢
  split
  case isTrue wild => rw [if_pos wild] at present; exact absurd rfl present
  case isFalse => rfl

theorem order_of_unordered (caseSensitive : Bool) {dependent target : Value}
    (unordered : dependent.Unordered target) :
    order caseSensitive dependent target = .error (.unordered dependent.kind target.kind) := by
  rcases unordered with ⟨present, targetPresent, alien⟩
  have same := orderedTarget_of_ne_null targetPresent
  rw [same] at targetPresent
  rw [order, same]
  exact orderContent_of_not_kindred present targetPresent alien

theorem order_of_not_unordered (caseSensitive : Bool) {dependent target : Value}
    (ordered : ¬ dependent.Unordered target) :
    ∃ result, order caseSensitive dependent target = .ok result := by
  by_cases present : dependent = .null
  · subst present
    exact ⟨none, order_null_left caseSensitive target⟩
  by_cases targetPresent : orderedTarget dependent target = .null
  · rw [order, targetPresent]
    exact ⟨none, orderContent_null_right caseSensitive dependent⟩
  have kindred : dependent.Kindred target := by
    by_contra alien
    exact ordered ⟨present, targetPresent, alien⟩
  exact order_of_orderable caseSensitive
    (.family (kindred_iff.mp kindred).1 (kindred_iff.mp kindred).2)

theorem compare_error_iff {relation : Relation} (ordering : relation.isOrdering = true)
    (caseSensitive : Bool) (dependent target : Value) :
    (∃ fault, compare relation caseSensitive dependent target = .error fault) ↔
      dependent.Unordered target := by
  constructor
  · rintro ⟨fault, failed⟩
    by_contra ordered
    rcases order_of_not_unordered caseSensitive ordered with ⟨result, isResult⟩
    cases relation <;> cases ordering <;> simp only [compare, isResult] at failed <;> cases failed
  · intro unordered
    have failed := order_of_unordered caseSensitive unordered
    cases relation <;> cases ordering <;> exact ⟨_, by rw [compare, failed]; rfl⟩

theorem order_of_kindred (caseSensitive : Bool) {dependent target : Value}
    (kindred : dependent.Kindred target) :
    order caseSensitive dependent target = orderContent caseSensitive dependent target := by
  have plain (wild : target.isWildcard = true) : dependent.isString = true := by
    cases kindred with
    | strings => rfl
    | _ => cases wild
  rw [order, orderedTarget_eq plain]

theorem order_eq_some {caseSensitive : Bool} {dependent target : Value} {ordering : Ordering}
    (ordered : order caseSensitive dependent target = .ok (some ordering)) :
    orderContent caseSensitive dependent target = .ok (some ordering) := by
  rw [order] at ordered
  have present : orderedTarget dependent target ≠ .null := by
    intro isNull
    rw [isNull, orderContent_null_right] at ordered
    cases ordered
  rwa [orderedTarget_of_ne_null present] at ordered

theorem compare_less_eq_true {caseSensitive : Bool} {dependent target : Value} :
    compare .less caseSensitive dependent target = .ok true ↔
      orderContent caseSensitive dependent target = .ok (some .lt) := by
  rw [compare_ordering_eq_ok.1]
  constructor
  · rintro ⟨result, ordered, less⟩
    rw [beq_iff_eq.mp less] at ordered
    exact order_eq_some ordered
  · intro less
    refine ⟨some .lt, ?_, rfl⟩
    rw [order_of_kindred caseSensitive (kindred_of_orderContent less), less]

theorem order_converse {caseSensitive : Bool} {first second : Value}
    (plain : first.isWildcard = false) (plain' : second.isWildcard = false)
    {result : Option Ordering} (ordered : order caseSensitive first second = .ok result) :
    order caseSensitive second first = .ok (result.map Ordering.swap) := by
  rw [order, orderedTarget_eq (by simp [plain'])] at ordered
  rw [order, orderedTarget_eq (by simp [plain])]
  exact orderContent_swap ordered

theorem equals_of_present {caseSensitive : Bool} {dependent target : Value}
    (present : dependent.isEmpty = false) (targetPresent : target.isEmpty = false)
    (plain : target.isWildcard = false) :
    equals caseSensitive dependent target = sameContent caseSensitive dependent target := by
  rw [equals, present, targetPresent, plain]
  rfl

/-! ## The laws -/

structure OrdersLawfully (caseSensitive : Bool) : Prop where
  /-- Equality never fails. -/
  equality (dependent target : Value) :
    (∃ holds, compare .equal caseSensitive dependent target = .ok holds) ∧
      ∃ holds, compare .notEqual caseSensitive dependent target = .ok holds
  /-- The relations of order fail on the same values. -/
  together {relation other : Relation} (ordering : relation.isOrdering = true)
    (ordering' : other.isOrdering = true) (dependent target : Value) :
    (∃ fault, compare relation caseSensitive dependent target = .error fault) ↔
      ∃ fault, compare other caseSensitive dependent target = .error fault
  /-- They fail where no order is defined. -/
  fails {relation : Relation} (ordering : relation.isOrdering = true) (dependent target : Value) :
    (∃ fault, compare relation caseSensitive dependent target = .error fault) ↔
      dependent.Unordered target
  atLeast {dependent target : Value} {holds : Bool}
    (less : compare .less caseSensitive dependent target = .ok holds) :
    compare .greaterOrEqual caseSensitive dependent target = .ok !holds
  atMost {dependent target : Value} {holds : Bool}
    (greater : compare .greater caseSensitive dependent target = .ok holds) :
    compare .lessOrEqual caseSensitive dependent target = .ok !holds
  asymmetric (dependent target : Value) :
    ¬ (compare .less caseSensitive dependent target = .ok true ∧
      compare .greater caseSensitive dependent target = .ok true)
  converse {first second : Value} (plain : first.isWildcard = false)
    (plain' : second.isWildcard = false) (holds : Bool) :
    compare .less caseSensitive first second = .ok holds ↔
      compare .greater caseSensitive second first = .ok holds
  /-- One of three: less, equal or greater. -/
  trichotomy {dependent target : Value} (kindred : dependent.Kindred target)
    (present : dependent.isEmpty = false) (targetPresent : target.isEmpty = false)
    (isNumber : dependent.isNaN = false) (targetIsNumber : target.isNaN = false)
    (plain : target.isWildcard = false) :
    ∃ ordering : Ordering,
      compare .less caseSensitive dependent target = .ok (ordering == .lt) ∧
      compare .equal caseSensitive dependent target = .ok (ordering == .eq) ∧
      compare .greater caseSensitive dependent target = .ok (ordering == .gt)
  irreflexive {value : Value} (ordered : value.type.plainFamily.isOrdered = true) :
    compare .less caseSensitive value value = .ok false
  transitive {first second third : Value}
    (less : compare .less caseSensitive first second = .ok true)
    (further : compare .less caseSensitive second third = .ok true) :
    compare .less caseSensitive first third = .ok true

/-- Comparisons obey the laws of order, whether or not case matters. -/
theorem ordersLawfully (caseSensitive : Bool) : OrdersLawfully caseSensitive where
  equality dependent target := ⟨⟨_, rfl⟩, ⟨_, rfl⟩⟩
  together ordering ordering' dependent target := by
    rw [compare_error_iff ordering, compare_error_iff ordering']
  fails ordering dependent target := compare_error_iff ordering caseSensitive dependent target
  atLeast less := by
    rcases compare_ordering_eq_ok.1.mp less with ⟨result, ordered, rfl⟩
    rw [compare, ordered]
    rfl
  atMost greater := by
    rcases compare_ordering_eq_ok.2.mp greater with ⟨result, ordered, rfl⟩
    rw [compare, ordered]
    rfl
  asymmetric dependent target := by
    rintro ⟨less, greater⟩
    rcases compare_ordering_eq_ok.1.mp less with ⟨result, ordered, isLess⟩
    rcases compare_ordering_eq_ok.2.mp greater with ⟨result', ordered', isGreater⟩
    cases ordered.symm.trans ordered'
    rw [beq_iff_eq.mp isLess] at isGreater
    cases isGreater
  converse plain plain' holds := by
    rw [compare_ordering_eq_ok.1, compare_ordering_eq_ok.2]
    have turned (result : Option Ordering) :
        (result.map Ordering.swap == some .gt) = (result == some .lt) ∧
          (result.map Ordering.swap == some .lt) = (result == some .gt) := by
      cases result with
      | none => exact ⟨rfl, rfl⟩
      | some ordering => cases ordering <;> exact ⟨rfl, rfl⟩
    constructor
    · rintro ⟨result, ordered, rfl⟩
      exact ⟨_, order_converse plain plain' ordered, (turned result).1⟩
    · rintro ⟨result, ordered, rfl⟩
      exact ⟨_, order_converse plain' plain ordered, (turned result).2⟩
  trichotomy kindred present targetPresent isNumber targetIsNumber plain := by
    rcases exists_orderContent caseSensitive kindred isNumber targetIsNumber with
      ⟨ordering, ordered⟩
    have whole := (order_of_kindred caseSensitive kindred).trans ordered
    refine ⟨ordering, compare_ordering_eq_ok.1.mpr ⟨_, whole, rfl⟩, ?_,
      compare_ordering_eq_ok.2.mpr ⟨_, whole, rfl⟩⟩
    rw [compare, equals_of_present present targetPresent plain, Except.ok.injEq, Bool.eq_iff_iff,
      sameContent_iff kindred, ordered, Except.ok.injEq, Option.some.injEq, beq_iff_eq]
  irreflexive {value} ordered := by
    have kindred : value.Kindred value := kindred_iff.mpr ⟨rfl, ordered⟩
    rcases order_of_orderable caseSensitive (.family rfl ordered : value.Orderable value) with
      ⟨result, isResult⟩
    refine compare_ordering_eq_ok.1.mpr ⟨result, isResult, ?_⟩
    rw [order_of_kindred caseSensitive kindred] at isResult
    exact beq_eq_false_iff_ne.mpr fun less => orderContent_self_ne_lt (less ▸ isResult)
  transitive less further := by
    rw [compare_less_eq_true] at less further ⊢
    exact orderContent_lt_trans less further

end Value

end Proviso
