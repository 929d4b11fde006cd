import Proviso.Function.Builtin.Texts
import Proviso.Proofs.Value.Rank

/-!
The functions that compare texts. Their answers, -1, 0 and 1, are those of a total preorder of the
texts and null, with null in front, and of two texts they say what the relations of order say with
the same regard to case. Only with regard to case does 0 mean that the texts are the same.
-/

namespace Proviso

def Value.ofText : Option String → Value
  | none => .null
  | some text => .string text

namespace Builtin

open Calendar.Moment (compareParts)

/-! ## Answers -/

def sign : Ordering → Int64
  | .lt => -1
  | .eq => 0
  | .gt => 1

theorem sign_swap (ordering : Ordering) : sign ordering.swap = -sign ordering := by
  cases ordering <;> rfl

theorem sign_eq_iff {ordering other : Ordering} : sign ordering = sign other ↔ ordering = other := by
  cases ordering <;> cases other <;> decide

theorem sign_le_zero_iff {ordering : Ordering} :
    (sign ordering).toInt ≤ 0 ↔ ordering.isLE = true := by
  cases ordering <;> decide

/-! ## Order -/

def textOrder (caseSensitive : Bool) : Option String → Option String → Ordering
  | none, none => .eq
  | none, some _ => .lt
  | some _, none => .gt
  | some first, some second =>
    Text.order (Text.comparable caseSensitive first) (Text.comparable caseSensitive second)

theorem ordinal_eq_sign (caseSensitive : Bool) (first second : Option String) :
    ordinal caseSensitive first second = sign (textOrder caseSensitive first second) := by
  cases first with
  | none => cases second <;> rfl
  | some first =>
    cases second with
    | none => rfl
    | some second =>
      rw [ordinal, textOrder]
      cases Text.order _ _ <;> rfl

theorem textOrder_swap (caseSensitive : Bool) (first second : Option String) :
    textOrder caseSensitive second first = (textOrder caseSensitive first second).swap := by
  cases first <;> cases second
  case some.some => exact Text.order_swap _ _
  all_goals rfl

theorem isLE_textOrder_trans {caseSensitive : Bool} {first second third : Option String}
    (below : (textOrder caseSensitive first second).isLE = true)
    (further : (textOrder caseSensitive second third).isLE = true) :
    (textOrder caseSensitive first third).isLE = true := by
  cases first with
  | none => cases third <;> rfl
  | some first =>
    cases second with
    | none => cases below
    | some second =>
      cases third with
      | none => cases further
      | some third =>
        simp only [textOrder, Text.order_eq_compareParts] at below further ⊢
        exact Std.TransCmp.isLE_trans below further

theorem textOrder_eq_iff {first second : Option String} :
    textOrder true first second = .eq ↔ first = second := by
  cases first with
  | none => cases second <;> simp [textOrder]
  | some first =>
    cases second with
    | none => simp [textOrder]
    | some second =>
      rw [textOrder, Text.order_eq_compareParts, Std.LawfulEqCmp.compare_eq_iff_eq,
        Option.some.injEq]
      constructor
      · intro same
        exact String.toList_injective (Text.codes_injective same)
      · intro same
        rw [same]

/-! ## Relations -/

theorem compare_texts (caseSensitive : Bool) (first second : String) :
    Value.compare .less caseSensitive (.string first) (.string second) =
        .ok (textOrder caseSensitive (some first) (some second) == .lt) ∧
      Value.compare .greater caseSensitive (.string first) (.string second) =
        .ok (textOrder caseSensitive (some first) (some second) == .gt) := by
  have plain : Value.orderedTarget (.string first) (.string second) = .string second :=
    Value.orderedTarget_eq fun _ => rfl
  simp only [Value.compare, Value.order, plain]
  constructor <;> rfl

def comparison (function : Function) (moment : Calendar.Moment) (first second : Option String) :
    Except Fault Value :=
  function.invoke moment [.ofText first, .ofText second]

/-- That a function tells which of two texts comes first, as the relations of order tell it. -/
structure RanksTexts (function : Function) (caseSensitive : Bool) (moment : Calendar.Moment) :
    Prop where
  answers (first second : Option String) :
    ∃ rank : Int64, comparison function moment first second = .ok (.int rank) ∧
      (rank = -1 ∨ rank = 0 ∨ rank = 1)
  less (first second : String) :
    comparison function moment (some first) (some second) = .ok (.int (-1)) ↔
      Value.compare .less caseSensitive (.string first) (.string second) = .ok true
  neither (first second : String) :
    comparison function moment (some first) (some second) = .ok (.int 0) ↔
      Value.compare .less caseSensitive (.string first) (.string second) = .ok false ∧
        Value.compare .greater caseSensitive (.string first) (.string second) = .ok false
  greater (first second : String) :
    comparison function moment (some first) (some second) = .ok (.int 1) ↔
      Value.compare .greater caseSensitive (.string first) (.string second) = .ok true
  nullFirst (text : String) :
    comparison function moment none (some text) = .ok (.int (-1))
  converse {first second : Option String} {rank : Int64}
    (answered : comparison function moment first second = .ok (.int rank)) :
    comparison function moment second first = .ok (.int (-rank))
  transitive {first second third : Option String} {rank next : Int64}
    (answered : comparison function moment first second = .ok (.int rank))
    (below : rank.toInt ≤ 0)
    (onward : comparison function moment second third = .ok (.int next))
    (further : next.toInt ≤ 0) :
    ∃ last : Int64, comparison function moment first third = .ok (.int last) ∧ last.toInt ≤ 0

theorem answer_eq_iff {rank other : Int64} :
    (.ok (.int rank) : Except Fault Value) = .ok (.int other) ↔ rank = other := by
  constructor
  · intro same
    cases same
    rfl
  · intro same
    rw [same]

theorem ranksTexts_of_sign {function : Function} {caseSensitive : Bool} {moment : Calendar.Moment}
    (compares : ∀ first second, comparison function moment first second =
      .ok (.int (sign (textOrder caseSensitive first second)))) :
    RanksTexts function caseSensitive moment := by
  have answered_iff (ordering : Ordering) (first second : Option String) :
      comparison function moment first second = .ok (.int (sign ordering)) ↔
        textOrder caseSensitive first second = ordering := by
    rw [compares, answer_eq_iff, sign_eq_iff]
  constructor
  case answers =>
    intro first second
    refine ⟨_, compares first second, ?_⟩
    cases textOrder caseSensitive first second
    case lt => exact .inl rfl
    case eq => exact .inr (.inl rfl)
    case gt => exact .inr (.inr rfl)
  case less =>
    intro first second
    apply (answered_iff .lt (some first) (some second)).trans
    rw [(compare_texts caseSensitive first second).1, Except.ok.injEq, beq_iff_eq]
  case neither =>
    intro first second
    apply (answered_iff .eq (some first) (some second)).trans
    rw [(compare_texts caseSensitive first second).1, (compare_texts caseSensitive first second).2,
      Except.ok.injEq, Except.ok.injEq]
    cases textOrder caseSensitive (some first) (some second) <;> decide
  case greater =>
    intro first second
    apply (answered_iff .gt (some first) (some second)).trans
    rw [(compare_texts caseSensitive first second).2, Except.ok.injEq, beq_iff_eq]
  case nullFirst => exact fun text => compares none (some text)
  case converse =>
    intro first second rank answered
    rw [compares, answer_eq_iff] at answered
    rw [compares, answer_eq_iff, textOrder_swap, sign_swap, answered]
  case transitive =>
    intro first second third rank next answered below onward further
    rw [compares, answer_eq_iff] at answered onward
    rw [← answered, sign_le_zero_iff] at below
    rw [← onward, sign_le_zero_iff] at further
    exact ⟨_, compares first third, sign_le_zero_iff.mpr (isLE_textOrder_trans below further)⟩

theorem comparison_ofBody (name : String) (caseSensitive : Bool) (moment : Calendar.Moment)
    (first second : Option String) :
    comparison (.ofBody name [.string, .string] .int (compareOf name caseSensitive)) moment
        first second =
      .ok (.int (sign (textOrder caseSensitive first second))) := by
  rw [← ordinal_eq_sign]
  cases first <;> cases second <;> rfl

/-- Both functions tell which of two texts comes first, one with regard to case and the other
without it, and with regard to case only a text itself is neither in front nor behind. -/
theorem ranksTexts_compareOrdinal (moment : Calendar.Moment) :
    RanksTexts compareOrdinal true moment ∧ RanksTexts compareOrdinalIgnoreCase false moment ∧
      ∀ first second, comparison compareOrdinal moment first second = .ok (.int 0) ↔
        first = second := by
  have sensitive := comparison_ofBody "CompareOrdinal" true moment
  have insensitive := comparison_ofBody "CompareOrdinalIgnoreCase" false moment
  refine ⟨ranksTexts_of_sign sensitive, ranksTexts_of_sign insensitive, ?_⟩
  intro first second
  have same : (.ok (.int 0) : Except Fault Value) = .ok (.int (sign .eq)) := rfl
  rw [same, compareOrdinal, sensitive, answer_eq_iff, sign_eq_iff, textOrder_eq_iff]

end Builtin

end Proviso
