import Mathlib.Algebra.GroupWithZero.Nat
import Proviso.Proofs.Calendar.Duration
import Proviso.Proofs.Schema.Agreement
import Proviso.Proofs.Value.Symmetry
import Proviso.Value.Json

/-!
Single values read back from their data. The data says everything about a value of a known type, as
long as a double is finite and neither a moment nor a duration has a fraction of a second.
-/

namespace Proviso

open Float.Model

/-! ## Identifiers -/

namespace Guid

theorem length_grouped {chars : List Char} {lengths : List Nat} (nonempty : lengths ≠ [])
    (total : chars.length = lengths.sum) :
    (grouped chars lengths).length + 1 = chars.length + lengths.length := by
  induction lengths generalizing chars with
  | nil => exact absurd rfl nonempty
  | cons length rest induction =>
    cases rest with
    | nil =>
      have whole : chars.length = length := by simpa using total
      rw [grouped, List.take_of_length_le (Nat.le_of_eq whole)]
      rfl
    | cons next rest =>
      rw [List.sum_cons] at total
      have dropped : (chars.drop length).length = (next :: rest).sum := by
        rw [List.length_drop]
        omega
      have later := induction (List.cons_ne_nil _ _) dropped
      rw [List.length_drop] at later
      simp only [grouped, List.length_append, List.length_take, List.length_cons] at later ⊢
      omega

theorem ungroup?_grouped {chars : List Char} {lengths : List Nat} (nonempty : lengths ≠ [])
    (total : chars.length = lengths.sum) :
    ungroup? lengths (grouped chars lengths) = some chars := by
  induction lengths generalizing chars with
  | nil => exact absurd rfl nonempty
  | cons length rest induction =>
    cases rest with
    | nil =>
      have whole : chars.length = length := by simpa using total
      rw [grouped, List.take_of_length_le (Nat.le_of_eq whole), ungroup?, if_pos whole]
    | cons next rest =>
      rw [List.sum_cons] at total
      have dropped : (chars.drop length).length = (next :: rest).sum := by
        rw [List.length_drop]
        omega
      have taken : (chars.take length).length = length := by
        rw [List.length_take]
        omega
      have behind (text : List Char) : (chars.take length ++ text).drop length = text := by
        rw [List.drop_append, taken, Nat.sub_self, List.drop_of_length_le (Nat.le_of_eq taken)]
        rfl
      have before (text : List Char) :
          (chars.take length ++ text).take length = chars.take length := by
        rw [List.take_append, taken, Nat.sub_self, List.take_zero, List.append_nil,
          List.take_of_length_le (Nat.le_of_eq taken)]
      rw [grouped, ungroup?, behind, before]
      simp only [induction (List.cons_ne_nil _ _) dropped, Option.map_some,
        List.take_append_drop]

theorem hexDigit?_hexChar (digit : Fin 16) : hexDigit? (hexChar digit) = some digit := by
  revert digit
  decide

theorem mapM_hexDigit? (digits : List (Fin 16)) :
    (digits.map hexChar).mapM hexDigit? = some digits := by
  induction digits with
  | nil => rfl
  | cons digit rest induction =>
    rw [List.map_cons, List.mapM_cons, hexDigit?_hexChar, induction]
    rfl

theorem hexChar_plain (digit : Fin 16) :
    hexChar digit ≠ '\x7b' ∧ (hexChar digit).toLower ≠ 'u' := by
  revert digit
  decide

theorem isUri_of_head {char : Char} (other : char.toLower ≠ 'u') (rest : List Char) :
    isUri (char :: rest) = false := by
  have start : uriStart = 'u' :: uriStart.tail := by decide
  rw [isUri, start, List.map_cons, List.isPrefixOf_cons_cons, beq_false_of_ne other.symm,
    Bool.false_and]

theorem read?_text (guid : Guid) : read? guid.text.toList = some guid := by
  have length : (guid.digits.map hexChar).length = groupLengths.sum := by
    rw [List.length_map, guid.length_digits]
    rfl
  have grouping : groupLengths ≠ [] := List.cons_ne_nil _ _
  have longer := length_grouped grouping length
  have text : guid.text.toList = grouped (guid.digits.map hexChar) groupLengths := by
    simp [Guid.text]
  have read : readGrouped? guid.text.toList = some guid := by
    rw [readGrouped?, text, ungroup?_grouped grouping length, Option.bind_some,
      readPlain?, mapM_hexDigit?, Option.bind_some, ofDigits?, dif_pos guid.length_digits]
  have begins : ∃ digit rest, guid.text.toList = hexChar digit :: rest := by
    rcases guid with ⟨digits, length⟩
    rcases digits with _ | ⟨digit, rest⟩
    · cases length
    · rw [text]
      exact ⟨digit, _, List.cons_append⟩
  rcases begins with ⟨digit, rest, begins⟩
  have notPlain : ¬ guid.text.toList.length = 32 := by
    rw [text]
    rw [List.length_map, guid.length_digits] at longer
    simp only [groupLengths, List.length_cons, List.length_nil] at longer ⊢
    omega
  have notUri : isUri guid.text.toList = false := by
    rw [begins]
    exact isUri_of_head (hexChar_plain digit).2 rest
  unfold read?
  split
  case h_1 rest opens =>
    rw [begins] at opens
    exact absurd (List.cons.inj opens).1 (hexChar_plain digit).1
  case h_2 => rw [if_neg notPlain, if_neg (Bool.eq_false_iff.mp notUri), read]

end Guid

/-! ## Doubles -/

theorem Json.ofFloat_of_isFinite {value : Float} (finite : value.isFinite = true) :
    Json.ofFloat value = .float value := by
  have ordinary :
      @UnpackedFloat.unpackExponent Format.binary64 value.toModel.toBits.toBitVec ≠ -1#11 := by
    intro all
    change (UnpackedFloat.unpack Format.binary64 value.toModel.toBits.toBitVec).isFinite = true
      at finite
    delta UnpackedFloat.unpack at finite
    dsimp only at finite
    rw [if_pos all] at finite
    split at finite <;> cases finite
  have below : value.toBits.toNat / 2 ^ 52 % 2 ^ 11 ≠ 2 ^ 11 - 1 := by
    intro all
    apply ordinary
    apply BitVec.eq_of_toNat_eq
    rw [UnpackedFloat.unpackExponent, BitVec.toNat_cast, BitVec.extractLsb,
      BitVec.extractLsb'_toNat, Nat.shiftRight_eq_div_pow]
    exact all
  rw [ofFloat, Number.magnitude]
  simp only [if_neg below]
  split
  case h_1 found | h_2 found =>
    split at found
    · split at found <;> cases found
    · cases found
  case h_3 => rfl

theorem Value.float_beq_self {value : Float} (finite : value.isFinite = true) :
    (value == value) = true := by
  rw [beq_iff_partsOrder, partsOrder]
  have unpacked : value.toModel.unpack.isFinite = true := finite
  cases parts : value.toModel.unpack with
  | notANumber | infinity =>
    rw [parts] at unpacked
    cases unpacked
  | zero => rfl
  | finite sign mantissa exponent positive =>
    have same : (Ord.compare exponent exponent).then (Ord.compare mantissa mantissa) = .eq := by
      rw [Std.ReflOrd.compare_self, Std.ReflOrd.compare_self]
      rfl
    cases sign
    · exact congrArg (some ∘ Ordering.swap) same
    · exact congrArg some same

/-! ## Values of any kind -/

namespace Scalar

/-- Whether the data of a value says everything about it. -/
def IsExact : Scalar → Prop
  | .float value => value.isFinite = true
  | .datetime value => value.nanosecond = 0
  | .timespan value => value.IsWhole
  | _ => True

theorem agrees_self {value : Scalar} (exact : value.IsExact) : value.agrees value = true := by
  cases value with
  | null => rfl
  | float value => exact Value.float_beq_self exact
  | enum value =>
    rw [agrees, EnumValue.agrees, EnumType.agrees_self, beq_self_eq_true, Bool.true_and]
  | _ => exact beq_self_eq_true _

/-- A single value other than null is read back from its data as a value of its type. -/
theorem ofJson?_toJson {type : Ty} {value : Scalar} (plain : type.isNullable = false)
    (admitted : type.admits (.scalar value) = true) (exact : value.IsExact) :
    ∃ read, ofJson? type value.toJson = some (.ok read) ∧ read.agrees value = true ∧
      type.admits (.scalar read) = true := by
  have itself (read : ofJson? type value.toJson = some (.ok value)) :
      ∃ read, ofJson? type value.toJson = some (.ok read) ∧ read.agrees value = true ∧
        type.admits (.scalar read) = true :=
    ⟨value, read, agrees_self exact, admitted⟩
  cases type with
  | nullable | null => cases plain
  | object => cases value <;> cases admitted
  | bool | string =>
    cases value <;> cases admitted
    exact itself rfl
  | int =>
    cases value <;> cases admitted
    case int value =>
      apply itself
      rw [ofJson?, toJson, Json.int64?, Number.int64?_toInt]
      rfl
  | float =>
    cases value <;> cases admitted
    case float value =>
      apply itself
      rw [ofJson?, toJson, Json.ofFloat_of_isFinite exact]
      rfl
  | datetime =>
    cases value <;> cases admitted
    case datetime value =>
      apply itself
      rw [ofJson?, toJson, Json.string?, Option.bind_some,
        Calendar.Moment.readMoment?_text value exact]
      rfl
  | timespan =>
    cases value <;> cases admitted
    case timespan value =>
      apply itself
      rw [ofJson?, toJson, Json.string?, Option.bind_some, Calendar.Duration.read?_text value exact]
      rfl
  | guid =>
    cases value <;> cases admitted
    case guid value =>
      apply itself
      rw [ofJson?, toJson, Json.string?, Option.bind_some, Guid.read?_text]
      rfl
  | enum type =>
    cases value with
    | enum value =>
      rw [Ty.admits, Bool.and_eq_true] at admitted
      refine ⟨.enum ⟨type, value.value⟩, ?_, ?_, ?_⟩
      · rw [ofJson?, toJson, EnumValue.ofJson?, Json.int64?, Number.int64?_toInt,
          Option.filter_some, if_pos admitted.2]
        rfl
      · rw [agrees, EnumValue.agrees, admitted.1, beq_self_eq_true, Bool.true_and]
      · rw [Ty.admits, EnumType.agrees_self, admitted.2, Bool.true_and]
    | _ => cases admitted

end Scalar
end Proviso
