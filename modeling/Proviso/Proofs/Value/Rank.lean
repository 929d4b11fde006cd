import Proviso.Proofs.Number.Rounding
import Proviso.Proofs.Value.Symmetry

/-!
Ranks of values. Texts, moments and doubles have a list of whole numbers each, and the order of
the values is that of the lists, the first numbers deciding first. Whole numbers have the rank of
their double, which does not fall where the number grows; of two whole numbers with one rank the
numbers themselves decide.
-/

namespace Proviso

/-! ## Lists of numbers -/

namespace Calendar.Moment

theorem isLE_compareParts_cons {first second : Int} {rest others : List Int} :
    (compareParts (first :: rest) (second :: others)).isLE = true ↔
      first < second ∨ first = second ∧ (compareParts rest others).isLE = true := by
  rw [compareParts]
  split
  case isTrue less => simp [less]
  case isFalse notLess =>
    split
    case isTrue greater => simp [notLess, Int.ne_of_gt greater]
    case isFalse notGreater =>
      have same : first = second := by omega
      simp [same]

@[simp] theorem compareParts_self (parts : List Int) : compareParts parts parts = .eq := by
  induction parts with
  | nil => rfl
  | cons part rest induction =>
    rw [compareParts, if_neg (Int.lt_irrefl part), if_neg (Int.lt_irrefl part), induction]

theorem eq_of_compareParts {first second : List Int} (equal : compareParts first second = .eq) :
    first = second := by
  induction first generalizing second with
  | nil =>
    cases second with
    | nil => rfl
    | cons other others => cases equal
  | cons part rest induction =>
    cases second with
    | nil => cases equal
    | cons other others =>
      rw [compareParts] at equal
      split at equal
      case isTrue => cases equal
      case isFalse notLess =>
        split at equal
        case isTrue => cases equal
        case isFalse notGreater =>
          have same : part = other := by omega
          rw [same, induction equal]

theorem isLE_compareParts_trans {first second third : List Int}
    (below : (compareParts first second).isLE = true)
    (further : (compareParts second third).isLE = true) :
    (compareParts first third).isLE = true := by
  induction first generalizing second third with
  | nil => cases third <;> rfl
  | cons part rest induction =>
    cases second with
    | nil => cases below
    | cons other others =>
      cases third with
      | nil => cases further
      | cons last lasts =>
        rw [isLE_compareParts_cons] at below further ⊢
        rcases below with less | ⟨rfl, below⟩ <;> rcases further with less' | ⟨rfl, further⟩
        · exact .inl (Int.lt_trans less less')
        · exact .inl less
        · exact .inl less'
        · exact .inr ⟨rfl, induction below further⟩

instance : Std.TransCmp compareParts where
  eq_swap := compareParts_swap _ _
  isLE_trans := isLE_compareParts_trans

instance : Std.LawfulEqCmp compareParts where
  compare_self := compareParts_self _
  eq_of_compare := eq_of_compareParts

theorem parts_injective {first second : Moment} (same : first.parts = second.parts) :
    first = second := by
  rcases first with ⟨⟨year, month, day, _⟩, hour, minute, second', nanosecond, _⟩
  rcases second with ⟨⟨year', month', day', _⟩, hour', minute', second'', nanosecond', _⟩
  simp only [parts, List.cons.injEq, Int.natCast_inj] at same
  rcases same with ⟨rfl, rfl, rfl, rfl, rfl, rfl, rfl, _⟩
  rfl

end Calendar.Moment

open Calendar.Moment (compareParts)

/-! ## Texts -/

namespace Text

def codes (text : List Char) : List Int :=
  text.map fun char => (char.toNat : Int)

theorem codes_injective {first second : List Char} (same : codes first = codes second) :
    first = second := by
  refine List.map_injective_iff.mpr (fun char other equal => ?_) same
  exact Char.toNat_inj.mp (Int.natCast_inj.mp equal)

theorem order_eq_compareParts (first second : List Char) :
    order first second = compareParts (codes first) (codes second) := by
  induction first generalizing second with
  | nil => cases second <;> rfl
  | cons char rest induction =>
    cases second with
    | nil => rfl
    | cons other others =>
      simp only [codes, List.map_cons, order, compareParts, Int.ofNat_lt]
      rw [induction others]
      rfl

end Text

/-! ## Doubles -/

namespace Value

open Float.Model (UnpackedFloat)

/-- Where a double stands: its sign and whether it is infinite, then the exponent and the
mantissa. What is no number stands nowhere. -/
def place : UnpackedFloat → Option (List Int)
  | .notANumber => none
  | .infinity .negative => some [-2]
  | .finite .negative mantissa exponent _ => some [-1, -exponent, -mantissa]
  | .zero _ => some [0]
  | .finite .positive mantissa exponent _ => some [1, exponent, mantissa]
  | .infinity .positive => some [2]

theorem compareParts_pair (exponent exponent' : Int) (mantissa mantissa' : Nat) :
    compareParts [exponent, mantissa] [exponent', mantissa'] =
      (Ord.compare exponent exponent').then (Ord.compare mantissa mantissa') := by
  rcases Int.lt_trichotomy exponent exponent' with less | rfl | greater
  · rw [compareParts, if_pos less, Int.compare_eq_lt.mpr less]
    rfl
  · rw [Int.compare_eq_eq.mpr rfl]
    rcases Nat.lt_trichotomy mantissa mantissa' with less | rfl | greater
    · rw [Nat.compare_eq_lt.mpr less]
      simp [compareParts, less]
    · rw [Nat.compare_eq_eq.mpr rfl]
      exact Calendar.Moment.compareParts_self _
    · rw [Nat.compare_eq_gt.mpr greater]
      simp [compareParts, greater, Nat.lt_asymm greater]
  · rw [compareParts, if_neg (Int.lt_asymm greater), if_pos greater,
      Int.compare_eq_gt.mpr greater]
    rfl

theorem compareParts_neg_pair (exponent exponent' mantissa mantissa' : Int) :
    compareParts [-exponent, -mantissa] [-exponent', -mantissa'] =
      compareParts [exponent', mantissa'] [exponent, mantissa] := by
  simp [compareParts]

theorem unpacked_compare_eq (first second : UnpackedFloat) :
    first.compare second =
      (place first).bind fun parts => (place second).map (compareParts parts) := by
  cases first with
  | notANumber => cases second <;> rfl
  | infinity sign =>
    cases second with
    | notANumber => cases sign <;> rfl
    | zero other => cases sign <;> rfl
    | infinity other => cases sign <;> cases other <;> rfl
    | finite other => cases sign <;> cases other <;> rfl
  | zero sign =>
    cases second with
    | infinity other => cases other <;> rfl
    | finite other => cases other <;> rfl
    | _ => rfl
  | finite sign mantissa exponent positive =>
    cases second with
    | notANumber => cases sign <;> rfl
    | infinity other => cases sign <;> cases other <;> rfl
    | zero other => cases sign <;> rfl
    | finite other mantissa' exponent' positive' =>
      cases sign <;> cases other
      -- Negative numbers are compared the other way round, and their parts are turned as well.
      case negative.negative =>
        have turned := (compareParts_neg_pair exponent exponent' mantissa mantissa').trans
          (Calendar.Moment.compareParts_swap [exponent, mantissa] [exponent', mantissa'])
        rw [compareParts_pair] at turned
        exact congrArg some turned.symm
      case positive.positive =>
        exact congrArg some (compareParts_pair exponent exponent' mantissa mantissa').symm
      all_goals rfl

def floatRank (number : Float) : Option (List Int) :=
  place number.toModel.unpack

theorem floatOrder_eq_ranks (first second : Float) :
    floatOrder first second =
      (floatRank first).bind fun parts => (floatRank second).map (compareParts parts) := by
  rw [floatOrder_eq_partsOrder]
  exact unpacked_compare_eq _ _

theorem isSome_floatRank (number : Float) : (floatRank number).isSome = !number.isNaN := by
  change (place number.toModel.unpack).isSome = !number.toModel.unpack.isNaN
  cases number.toModel.unpack with
  | infinity sign => cases sign <;> rfl
  | finite sign => cases sign <;> rfl
  | _ => rfl

theorem float_beq_iff {first second : Float} : (first == second) = true ↔
    ∃ parts, floatRank first = some parts ∧ floatRank second = some parts := by
  rw [beq_iff_partsOrder, ← floatOrder_eq_partsOrder, floatOrder_eq_ranks]
  simp only [Option.bind_eq_some_iff, Option.map_eq_some_iff]
  constructor
  · rintro ⟨parts, isFirst, others, isSecond, equal⟩
    cases Calendar.Moment.eq_of_compareParts equal
    exact ⟨parts, isFirst, isSecond⟩
  · rintro ⟨parts, isFirst, isSecond⟩
    exact ⟨parts, isFirst, parts, isSecond, Calendar.Moment.compareParts_self parts⟩

theorem float_beq_self_eq (number : Float) : (number == number) = !number.isNaN := by
  rw [← isSome_floatRank, Bool.eq_iff_iff, float_beq_iff, Option.isSome_iff_exists]
  simp only [and_self]

/-! ## Whole numbers -/

/-- The parts by which the double of a whole number is known. -/
inductive Placed (number : Int) : List Int → Prop where
  | zero (isZero : number = 0) : Placed number [0]
  | positive (exponent : Int) (mantissa : Nat) (isPositive : 0 < number)
    (low : 2 ^ 52 ≤ mantissa) (high : mantissa < 2 ^ 53)
    (packed : exponent * (2 ^ 52 : Nat) + mantissa = Number.doubleMagnitude number.toNat) :
    Placed number [1, exponent, mantissa]
  | negative (exponent : Int) (mantissa : Nat) (isNegative : number < 0)
    (low : 2 ^ 52 ≤ mantissa) (high : mantissa < 2 ^ 53)
    (packed : exponent * (2 ^ 52 : Nat) + mantissa = Number.doubleMagnitude (-number).toNat) :
    Placed number [-1, -exponent, -mantissa]

theorem floatRank_ofNat {number : Nat} (positive : 0 < number) (fits : number < 2 ^ 64) :
    ∃ parts, floatRank (Float.ofNat number) = some parts ∧ Placed number parts := by
  have normal := Number.normal_ofNat positive fits
  unfold floatRank
  generalize (Float.ofNat number).toModel.unpack = unpacked at normal ⊢
  cases normal with
  | intro mantissa exponent isPositive low high inside packed =>
    exact ⟨_, rfl, .positive exponent mantissa (by omega) low high packed⟩

theorem floatRank_neg_ofNat {number : Nat} (positive : 0 < number) (fits : number < 2 ^ 64) :
    ∃ parts, floatRank (Float.ofNat number).neg = some parts ∧ Placed (-number) parts := by
  have normal := (Number.normal_ofNat positive fits).neg
  have unpacked : (Float.ofNat number).neg.toModel.unpack =
      (Float.ofNat number).toModel.unpack.neg := normal.unpack_pack
  rw [floatRank, unpacked]
  generalize (Float.ofNat number).toModel.unpack.neg = turned at normal ⊢
  cases normal with
  | intro mantissa exponent isPositive low high inside packed =>
    refine ⟨_, rfl, .negative exponent mantissa (by omega) low high ?_⟩
    rw [Int.neg_neg]
    exact packed

theorem floatRank_intToFloat (word : Int64) :
    ∃ parts, floatRank (intToFloat word) = some parts ∧ Placed word.toInt parts := by
  have low := word.le_toInt
  have high := word.toInt_lt
  unfold intToFloat Float.ofInt
  cases number : word.toInt with
  | ofNat magnitude =>
    rw [number, Int.ofNat_eq_natCast] at low high
    rcases Nat.eq_zero_or_pos magnitude with rfl | positive
    · exact ⟨[0], rfl, .zero rfl⟩
    · exact floatRank_ofNat positive (by omega)
  | negSucc magnitude =>
    rw [number] at low high
    exact floatRank_neg_ofNat (Nat.succ_pos magnitude) (by omega)

theorem isLE_compareParts_pair {exponent exponent' : Int} {mantissa mantissa' : Nat}
    (low : 2 ^ 52 ≤ mantissa) (high : mantissa < 2 ^ 53)
    (low' : 2 ^ 52 ≤ mantissa') (high' : mantissa' < 2 ^ 53)
    (le : exponent * (2 ^ 52 : Nat) + mantissa ≤ exponent' * (2 ^ 52 : Nat) + mantissa') :
    (compareParts [exponent, mantissa] [exponent', mantissa']).isLE = true := by
  rw [Calendar.Moment.isLE_compareParts_cons, Calendar.Moment.isLE_compareParts_cons]
  by_cases less : exponent < exponent'
  · exact .inl less
  · refine .inr ⟨by omega, ?_⟩
    by_cases less' : (mantissa : Int) < mantissa'
    · exact .inl less'
    · exact .inr ⟨by omega, rfl⟩

theorem Placed.isLE {first second : Int} {parts others : List Int} (placed : Placed first parts)
    (placed' : Placed second others) (le : first ≤ second) :
    (compareParts parts others).isLE = true := by
  cases placed <;> cases placed'
  case zero.zero => rfl
  case positive.positive exponent mantissa isPositive low high packed exponent' mantissa' _ low'
      high' packed' =>
    have le' : first.toNat ≤ second.toNat := by omega
    have magnitudes := Number.doubleMagnitude_le (by omega) le'
    exact Calendar.Moment.isLE_compareParts_cons.mpr
      (.inr ⟨rfl, isLE_compareParts_pair low high low' high' (by omega)⟩)
  case negative.negative exponent mantissa _ low high packed exponent' mantissa' isNegative low'
      high' packed' =>
    have le' : (-second).toNat ≤ (-first).toNat := by omega
    have magnitudes := Number.doubleMagnitude_le (by omega) le'
    refine Calendar.Moment.isLE_compareParts_cons.mpr (.inr ⟨rfl, ?_⟩)
    rw [compareParts_neg_pair]
    exact isLE_compareParts_pair low' high' low high (by omega)
  all_goals first | omega | rfl

/-! ## Values -/

/-- Two texts, two moments or two numbers. -/
inductive Kindred : Value → Value → Prop where
  | strings (first second : String) : Kindred (.string first) (.string second)
  | moments (first second : Calendar.Moment) : Kindred (.datetime first) (.datetime second)
  | ints (first second : Int64) : Kindred (.int first) (.int second)
  | intFloat (first : Int64) (second : Float) : Kindred (.int first) (.float second)
  | floatInt (first : Float) (second : Int64) : Kindred (.float first) (.int second)
  | floats (first second : Float) : Kindred (.float first) (.float second)

theorem kindred_iff {first second : Value} : first.Kindred second ↔
    first.type.plainFamily = second.type.plainFamily ∧
      second.type.plainFamily.isOrdered = true := by
  constructor
  · intro kindred
    cases kindred <;> exact ⟨rfl, rfl⟩
  · rintro ⟨same, ordered⟩
    cases second with
    | object record => cases ordered
    | scalar second =>
      cases first with
      | object record => rw [← same] at ordered; cases ordered
      | scalar first =>
        cases second <;> cases ordered <;> cases first <;> cases same <;> constructor

theorem Kindred.symm {first second : Value} (kindred : first.Kindred second) :
    second.Kindred first := by
  cases kindred <;> constructor

theorem Kindred.trans {first second third : Value} (kindred : first.Kindred second)
    (further : second.Kindred third) : first.Kindred third := by
  rw [kindred_iff] at kindred further ⊢
  exact ⟨kindred.1.trans further.1, further.2⟩

def rank (caseSensitive : Bool) : Value → Option (List Int)
  | .int word => floatRank (intToFloat word)
  | .float number => floatRank number
  | .string text => some (Text.codes (Text.comparable caseSensitive text))
  | .datetime moment => some moment.parts
  | _ => none

def rankOrder (caseSensitive : Bool) (first second : Value) : Option Ordering :=
  (first.rank caseSensitive).bind fun parts =>
    (second.rank caseSensitive).map (compareParts parts)

/-- Values have the order of their ranks; only whole numbers are put in order by themselves. -/
theorem orderContent_of_kindred (caseSensitive : Bool) {first second : Value}
    (kindred : first.Kindred second) :
    orderContent caseSensitive first second = .ok (rankOrder caseSensitive first second) ∨
      ∃ word other : Int64, first = .int word ∧ second = .int other ∧
        orderContent caseSensitive first second =
          .ok (some (Ord.compare word.toInt other.toInt)) := by
  cases kindred with
  | strings first second =>
    exact .inl (congrArg (Except.ok ∘ some) (Text.order_eq_compareParts _ _))
  | moments => exact .inl rfl
  | ints word other => exact .inr ⟨word, other, rfl, rfl, rfl⟩
  | intFloat | floatInt | floats => exact .inl (congrArg Except.ok (floatOrder_eq_ranks _ _))

end Value

end Proviso
