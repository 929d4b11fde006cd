import Proviso.Number.Decimal

/-!
Whole numbers as doubles. A number of 53 binary digits or more is rounded by shifting it right,
with what is shifted out kept in two residual bits. The double of a positive number has a mantissa
of 53 digits; exponent and mantissa in one number grow with the number that was rounded.
-/

namespace Proviso.Number

open Float.Model (Format UnpackedFloat totalExponent)
open Float.Model.UnpackedFloat

/-! ## Shifting -/

/-- A mantissa with its residual bits, as one number. -/
def residualCode (extended : ExtendedMantissa) : Nat :=
  4 * extended.mantissa + 2 * extended.roundBit.toNat + extended.stickyBit.toNat

theorem residualCode_shiftRightOne (extended : ExtendedMantissa) :
    residualCode extended.shiftRightOne =
      2 * (residualCode extended / 4) + min (residualCode extended % 4) 1 := by
  have odd : (extended.mantissa % 2 != 0).toNat = extended.mantissa % 2 := by
    rcases Nat.mod_two_eq_zero_or_one extended.mantissa with even | odd
    · rw [even]
      rfl
    · rw [odd]
      rfl
  simp only [residualCode, ExtendedMantissa.shiftRightOne, odd]
  cases extended.roundBit <;> cases extended.stickyBit <;> simp <;> omega

theorem shiftRight_succ (extended : ExtendedMantissa) (count : Nat) :
    extended >>> (count + 1) = (extended >>> count).shiftRightOne :=
  rfl

theorem mantissa_shiftRight (extended : ExtendedMantissa) (count : Nat) :
    (extended >>> count).mantissa = extended.mantissa / 2 ^ count := by
  induction count with
  | zero => exact (Nat.div_one _).symm
  | succ count induction =>
    rw [shiftRight_succ, Nat.pow_succ, ← Nat.div_div_eq_div_mul, ← induction]
    rfl

theorem residualCode_shiftRight_le {first second : ExtendedMantissa}
    (le : residualCode first ≤ residualCode second) (count : Nat) :
    residualCode (first >>> count) ≤ residualCode (second >>> count) := by
  induction count with
  | zero => exact le
  | succ count induction =>
    rw [shiftRight_succ, shiftRight_succ, residualCode_shiftRightOne, residualCode_shiftRightOne]
    omega

/-! ## Rounding -/

theorem roundedMantissa_le {first second : ExtendedMantissa}
    (le : residualCode first ≤ residualCode second) :
    first.roundedMantissa ≤ second.roundedMantissa := by
  rcases first with ⟨first, firstRound, firstSticky⟩
  rcases second with ⟨second, secondRound, secondSticky⟩
  cases firstRound <;> cases firstSticky <;> cases secondRound <;> cases secondSticky <;>
    simp only [residualCode, Bool.toNat_true, Bool.toNat_false] at le <;>
    simp only [ExtendedMantissa.roundedMantissa, ExtendedMantissa.accuracy,
      Accuracy.roundToNearestEven] <;>
    omega

theorem roundedMantissa_bounds (extended : ExtendedMantissa) :
    extended.mantissa ≤ extended.roundedMantissa ∧
      extended.roundedMantissa ≤ extended.mantissa + 1 := by
  rcases extended with ⟨mantissa, roundBit, stickyBit⟩
  cases roundBit <;> cases stickyBit <;>
    simp only [ExtendedMantissa.roundedMantissa, ExtendedMantissa.accuracy,
      Accuracy.roundToNearestEven] <;>
    omega

/-- A number divided by a power of two, rounded to the nearest whole number. -/
def scaledDown (number count : Nat) : Nat :=
  ((⟨number, false, false⟩ : ExtendedMantissa) >>> count).roundedMantissa

theorem scaledDown_le {first second : Nat} (le : first ≤ second) (count : Nat) :
    scaledDown first count ≤ scaledDown second count :=
  have codes : residualCode ⟨first, false, false⟩ ≤ residualCode ⟨second, false, false⟩ := by
    simp only [residualCode, Bool.toNat_false]
    omega
  roundedMantissa_le (residualCode_shiftRight_le codes count)

theorem shiftRight_mul_two_pow (number count : Nat) :
    (⟨number * 2 ^ count, false, false⟩ : ExtendedMantissa) >>> count =
      ⟨number, false, false⟩ := by
  induction count generalizing number with
  | zero => exact congrArg (ExtendedMantissa.mk · false false) (Nat.mul_one number)
  | succ count induction =>
    have double : number * 2 ^ (count + 1) = number * 2 * 2 ^ count := by
      rw [Nat.pow_succ, Nat.mul_comm (2 ^ count) 2, ← Nat.mul_assoc]
    rw [shiftRight_succ, double, induction]
    simp [ExtendedMantissa.shiftRightOne]

theorem scaledDown_mul_two_pow (number count : Nat) :
    scaledDown (number * 2 ^ count) count = number := by
  rw [scaledDown, shiftRight_mul_two_pow]
  rfl

/-- Scaled down to 53 binary digits, a number may gain one more digit by rounding. -/
theorem scaledDown_bounds {number count : Nat} (wide : number.log2 = 52 + count) :
    2 ^ 52 ≤ scaledDown number count ∧ scaledDown number count ≤ 2 ^ 53 := by
  have positive : number ≠ 0 := by
    intro zero
    rw [zero, Nat.log2_zero] at wide
    omega
  have quotient := mantissa_shiftRight ⟨number, false, false⟩ count
  have rounded := roundedMantissa_bounds ((⟨number, false, false⟩ : ExtendedMantissa) >>> count)
  rw [quotient] at rounded
  have low : 2 ^ 52 ≤ number / 2 ^ count := by
    rw [Nat.le_div_iff_mul_le (Nat.two_pow_pos count), ← Nat.pow_add, ← wide]
    exact Nat.log2_self_le positive
  have high : number / 2 ^ count < 2 ^ 53 := by
    rw [Nat.div_lt_iff_lt_mul (Nat.two_pow_pos count), ← Nat.pow_add]
    have bound := Nat.lt_log2_self (n := number)
    rwa [wide, show 52 + count + 1 = 53 + count by omega] at bound
  exact ⟨Nat.le_trans low rounded.1, Nat.le_trans rounded.2 high⟩

/-! ## Normal doubles -/

/-- Doubles with a mantissa of 53 digits and an exponent well inside the range. The magnitude has
the exponent in front of the mantissa. -/
inductive Normal (sign : Sign) (magnitude : Int) : UnpackedFloat → Prop where
  | intro (mantissa : Nat) (exponent : Int) (positive : 0 < mantissa)
    (low : 2 ^ 52 ≤ mantissa) (high : mantissa < 2 ^ 53)
    (inside : -1000 ≤ exponent ∧ exponent ≤ 900)
    (packed : exponent * (2 ^ 52 : Nat) + mantissa = magnitude) :
    Normal sign magnitude (.finite sign mantissa exponent positive)

theorem Normal.neg {sign : Sign} {magnitude : Int} {unpacked : UnpackedFloat}
    (normal : Normal sign magnitude unpacked) : Normal (-sign) magnitude unpacked.neg := by
  cases normal with
  | intro mantissa exponent positive low high inside packed =>
    exact ⟨mantissa, exponent, positive, low, high, inside, packed⟩

theorem targetExponent_binary64 (total : Int) :
    Format.targetExponent .binary64 total = max (total - 53) (-1074) :=
  rfl

theorem log2_eq_of_bounds {mantissa count : Nat} (low : 2 ^ count ≤ mantissa)
    (high : mantissa < 2 ^ (count + 1)) : mantissa.log2 = count :=
  (Nat.log2_eq_iff (Nat.ne_of_gt (Nat.lt_of_lt_of_le (Nat.two_pow_pos count) low))).mpr
    ⟨low, high⟩

theorem shiftToTargetExponent_exact {number count : Nat} {exponent : Int}
    (wide : number.log2 = 52 + count) (inside : -1000 ≤ exponent + count) :
    shiftToTargetExponent .binary64 number exponent .exact =
      ((⟨number, false, false⟩ : ExtendedMantissa) >>> count, exponent + count) := by
  have target : Format.targetExponent .binary64 (totalExponent number exponent) =
      exponent + count := by
    rw [targetExponent_binary64, totalExponent, wide]
    omega
  have amount : (exponent + count - exponent).toNat = count := by omega
  simp only [shiftToTargetExponent, shiftToExponent, target, amount]
  rfl

theorem roundWithAccuracy_eq (sign : Sign) {number count mantissa : Nat} {exponent last : Int}
    (wide : number.log2 = 52 + count) (low : -1000 ≤ exponent + count) {rest : ExtendedMantissa}
    (again : shiftToTargetExponent .binary64 (scaledDown number count) (exponent + count) .exact =
      (rest, last)) (kept : rest.mantissa = mantissa) (positive : 0 < mantissa) :
    roundWithAccuracy .binary64 sign number exponent .exact =
      .finite sign mantissa last positive := by
  have whole : roundWithAccuracy .binary64 sign number exponent .exact =
      let second := shiftToTargetExponent .binary64 (scaledDown number count)
        (exponent + count) .exact
      if zero : second.1.mantissa = 0 then .zero sign
      else .finite sign second.1.mantissa second.2 (Nat.pos_of_ne_zero zero) := by
    rw [roundWithAccuracy, shiftToTargetExponent_exact wide low]
    rfl
  subst kept
  rw [whole, again]
  exact dif_neg (Nat.ne_of_gt positive)

theorem normal_roundWithAccuracy (sign : Sign) (exponent : Int) {number count : Nat}
    (wide : number.log2 = 52 + count) (low : -1000 ≤ exponent + count)
    (high : exponent + count < 900) :
    Normal sign ((exponent + count) * (2 ^ 52 : Nat) + scaledDown number count)
      (roundWithAccuracy .binary64 sign number exponent .exact) := by
  have bounds := scaledDown_bounds wide
  -- There is more to be shifted only where rounding gained a digit, and then nothing is lost.
  rcases Nat.lt_or_eq_of_le bounds.2 with fits | gained
  · have digits : (scaledDown number count).log2 = 52 + 0 := log2_eq_of_bounds bounds.1 fits
    have inside : -1000 ≤ exponent + count + (0 : Nat) := by omega
    have again := shiftToTargetExponent_exact digits inside
    have kept : ((⟨scaledDown number count, false, false⟩ : ExtendedMantissa) >>> 0).mantissa =
        scaledDown number count := by
      rw [mantissa_shiftRight, Nat.pow_zero]
      exact Nat.div_one _
    rw [roundWithAccuracy_eq sign wide low again kept (by omega)]
    exact ⟨_, _, _, bounds.1, fits, by omega, by omega⟩
  · have digits : (2 ^ 53).log2 = 52 + 1 := Nat.log2_two_pow
    have inside : -1000 ≤ exponent + count + (1 : Nat) := by omega
    have again := shiftToTargetExponent_exact digits inside
    rw [← gained] at again
    have kept : ((⟨scaledDown number count, false, false⟩ : ExtendedMantissa) >>> 1).mantissa =
        2 ^ 52 := by
      rw [mantissa_shiftRight, gained]
      rfl
    rw [roundWithAccuracy_eq sign wide low again kept (by decide), gained]
    exact ⟨_, _, _, Nat.le_refl _, by decide, by omega, by omega⟩

/-! ## Packing -/

theorem ofBitVec_unpackSign (sign : Sign) (exponent : BitVec 11) (mantissa : BitVec 52) :
    Sign.ofBitVec (unpackSign (packComponents .binary64 sign exponent mantissa)) = sign := by
  change Sign.ofBitVec (BitVec.cast rfl (BitVec.extractLsb' (52 + 11) (52 + 11 - (52 + 11) + 1)
    (sign.toBitVec ++ exponent ++ mantissa))) = sign
  rw [BitVec.extractLsb'_append_eq_of_le (by decide),
    BitVec.extractLsb'_append_eq_of_le (by decide)]
  cases sign <;> rfl

theorem toNat_leading_append {mantissa : Nat} (low : 2 ^ 52 ≤ mantissa) (high : mantissa < 2 ^ 53) :
    (1#1 ++ BitVec.ofNat 52 mantissa).toNat = mantissa := by
  rw [BitVec.toNat_append, ← Nat.shiftLeft_add_eq_or_of_lt (BitVec.ofNat 52 mantissa).isLt,
    BitVec.toNat_ofNat, BitVec.toNat_ofNat, Nat.shiftLeft_eq]
  omega

theorem finite_congr {sign other : Sign} {mantissa mantissa' : Nat} {exponent exponent' : Int}
    {positive : 0 < mantissa} {positive' : 0 < mantissa'} (sameSign : sign = other)
    (sameMantissa : mantissa = mantissa') (sameExponent : exponent = exponent') :
    UnpackedFloat.finite sign mantissa exponent positive =
      .finite other mantissa' exponent' positive' := by
  subst sameSign sameMantissa sameExponent
  rfl

theorem exists_unpack_eq (bits : BitVec 64) (notTop : @unpackExponent .binary64 bits ≠ -1#11)
    (notBottom : @unpackExponent .binary64 bits ≠ 0#11) :
    ∃ positive, unpack .binary64 bits =
      .finite (Sign.ofBitVec (@unpackSign .binary64 bits))
        (1#1 ++ @unpackMantissa .binary64 bits).toNat
        ((@unpackExponent .binary64 bits).toNat - ((1023 : Nat) + (52 : Nat))) positive :=
  ⟨_, (if_neg notTop).trans (if_neg notBottom)⟩

theorem pack_eq {sign : Sign} {mantissa : Nat} {exponent : Int} {positive : 0 < mantissa}
    (digits : mantissa.log2 = 52) (inside : -1000 ≤ exponent ∧ exponent ≤ 900) :
    pack .binary64 (.finite sign mantissa exponent positive) =
      packComponents .binary64 sign (BitVec.ofNat 11 (exponent + 1075).toNat)
        (BitVec.ofNat 52 mantissa) := by
  have biased : (exponent + (1023 : Nat) + (52 : Nat)).toNat = (exponent + 1075).toNat := by omega
  have parts : pack .binary64 (.finite sign mantissa exponent positive) =
      if 2 ^ 11 ≤ (exponent + (1023 : Nat) + (52 : Nat)).toNat + 1 then
        packedInfinity .binary64 sign
      else if mantissa.log2 + 1 = 53 then
        packComponents .binary64 sign
          (BitVec.ofNat 11 (exponent + (1023 : Nat) + (52 : Nat)).toNat) (BitVec.ofNat 52 mantissa)
      else packComponents .binary64 sign 0#11 (BitVec.ofNat 52 mantissa) :=
    rfl
  rw [parts, if_neg (by omega), if_pos (by rw [digits]), biased]

theorem Normal.unpack_pack {sign : Sign} {magnitude : Int} {unpacked : UnpackedFloat}
    (normal : Normal sign magnitude unpacked) :
    (Float.Model.pack unpacked).unpack = unpacked := by
  cases normal with
  | intro mantissa exponent positive low high inside packed =>
    change unpack .binary64 (pack .binary64 (.finite sign mantissa exponent positive)) = _
    rw [pack_eq (log2_eq_of_bounds low high) inside]
    have stored : (BitVec.ofNat 11 (exponent + 1075).toNat).toNat = (exponent + 1075).toNat := by
      rw [BitVec.toNat_ofNat]
      omega
    have notTop : BitVec.ofNat 11 (exponent + 1075).toNat ≠ -1#11 := by
      intro top
      have value : (exponent + 1075).toNat = 2047 := stored ▸ congrArg BitVec.toNat top
      omega
    have notBottom : BitVec.ofNat 11 (exponent + 1075).toNat ≠ 0#11 := by
      intro bottom
      have value : (exponent + 1075).toNat = 0 := stored ▸ congrArg BitVec.toNat bottom
      omega
    let bits : BitVec 64 := packComponents .binary64 sign
      (BitVec.ofNat 11 (exponent + 1075).toNat) (BitVec.ofNat 52 mantissa)
    have exponentKept : @unpackExponent .binary64 bits = BitVec.ofNat 11 (exponent + 1075).toNat :=
      unpackExponent_packComponents ..
    rcases exists_unpack_eq bits (fun top => notTop (exponentKept.symm.trans top))
      (fun bottom => notBottom (exponentKept.symm.trans bottom)) with ⟨positive', unpacked⟩
    rw [unpacked]
    refine finite_congr (ofBitVec_unpackSign ..) ?_ ?_
    · rw [unpackMantissa_packComponents]
      exact toNat_leading_append low high
    · rw [exponentKept, stored]
      omega

/-! ## Whole numbers -/

def doubleMagnitude (number : Nat) : Int :=
  ((number.log2 : Int) - 52) * (2 ^ 52 : Nat) + scaledDown (number * 2 ^ 53) (number.log2 + 1)

theorem log2_mul_two_pow {number : Nat} (positive : 0 < number) (count : Nat) :
    (number * 2 ^ count).log2 = number.log2 + count := by
  rw [Nat.log2_eq_iff (Nat.ne_of_gt (Nat.mul_pos positive (Nat.two_pow_pos count)))]
  constructor
  · rw [Nat.pow_add]
    exact Nat.mul_le_mul_right _ (Nat.log2_self_le (Nat.ne_of_gt positive))
  · rw [Nat.add_right_comm, Nat.pow_add]
    exact Nat.mul_lt_mul_of_pos_right Nat.lt_log2_self (Nat.two_pow_pos count)

theorem log2_widened {number : Nat} (positive : 0 < number) :
    (number * 2 ^ 53).log2 = 52 + (number.log2 + 1) :=
  (log2_mul_two_pow positive 53).trans (by omega)

/-- Of two numbers with as many digits the greater is rounded to no less; with a digit more it has
the greater exponent, and rounding up the other one reaches that at most. -/
theorem doubleMagnitude_le {first second : Nat} (positive : 0 < first) (le : first ≤ second) :
    doubleMagnitude first ≤ doubleMagnitude second := by
  have digits : first.log2 ≤ second.log2 := by
    rw [Nat.le_log2 (by omega)]
    exact Nat.le_trans (Nat.log2_self_le (Nat.ne_of_gt positive)) le
  rcases Nat.lt_or_eq_of_le digits with fewer | same
  · have firstBounds := (scaledDown_bounds (log2_widened positive)).2
    have secondBounds := (scaledDown_bounds (log2_widened (Nat.lt_of_lt_of_le positive le))).1
    simp only [doubleMagnitude]
    omega
  · have rounded := scaledDown_le (Nat.mul_le_mul_right (2 ^ 53) le) (second.log2 + 1)
    simp only [doubleMagnitude, same]
    omega

theorem scaledDown_of_small {number : Nat} (small : number.log2 ≤ 52) :
    scaledDown (number * 2 ^ 53) (number.log2 + 1) = number * 2 ^ (52 - number.log2) := by
  have powers : 2 ^ 53 = 2 ^ (52 - number.log2) * 2 ^ (number.log2 + 1) := by
    rw [← Nat.pow_add]
    exact congrArg (2 ^ ·) (by omega)
  rw [powers, ← Nat.mul_assoc, scaledDown_mul_two_pow]

theorem normal_round_small {number : Nat} (positive : 0 < number) (small : number.log2 ≤ 52) :
    Normal .positive (doubleMagnitude number) (UnpackedFloat.ofNat .binary64 number) := by
  have sign : Ord.compare (number : Int) 0 = .gt := Int.compare_eq_gt.mpr (by omega)
  have target : Format.targetExponent .binary64 (totalExponent number 0) =
      (number.log2 : Int) - 52 := by
    rw [targetExponent_binary64, totalExponent]
    omega
  have amount : (0 - ((number.log2 : Int) - 52)).toNat = 52 - number.log2 := by omega
  simp only [UnpackedFloat.ofNat, UnpackedFloat.ofInt, UnpackedFloat.normalize, sign,
    UnpackedFloat.round, target, decreaseExponent, amount, Int.toNat_natCast, Nat.shiftLeft_eq]
  have digits : (number * 2 ^ (52 - number.log2)).log2 = 52 + 0 :=
    (log2_mul_two_pow positive _).trans (by omega)
  have rounded := normal_roundWithAccuracy .positive (0 - (52 - number.log2 : Nat)) digits
    (by omega) (by omega)
  have magnitude : doubleMagnitude number =
      (0 - ((52 - number.log2 : Nat) : Int) + (0 : Nat)) * (2 ^ 52 : Nat) +
        scaledDown (number * 2 ^ (52 - number.log2)) 0 := by
    have whole : scaledDown (number * 2 ^ (52 - number.log2)) 0 =
        number * 2 ^ (52 - number.log2) := rfl
    rw [doubleMagnitude, scaledDown_of_small small, whole]
    omega
  rw [magnitude]
  exact rounded

theorem doubleMagnitude_le_of_small {number : Nat} (positive : 0 < number)
    (small : number.log2 ≤ 52) : doubleMagnitude number ≤ (2 ^ 53 : Nat) := by
  have bounds := scaledDown_bounds (log2_widened positive)
  simp only [doubleMagnitude]
  omega

theorem unpack_one : (Float.ofBits 0x3FF0000000000000).toModel.unpack =
    .finite .positive (2 ^ 52) (-52) (by decide) :=
  rfl

theorem Normal.mul_one {magnitude : Int} {unpacked : UnpackedFloat}
    (normal : Normal .positive magnitude unpacked) (small : magnitude ≤ (2 ^ 53 : Nat)) :
    Normal .positive magnitude
      (mul .binary64 unpacked (Float.ofBits 0x3FF0000000000000).toModel.unpack) := by
  rw [unpack_one]
  cases normal with
  | intro mantissa exponent positive low high inside packed =>
    have digits : (mantissa * 2 ^ 52).log2 = 52 + 52 :=
      (log2_mul_two_pow positive 52).trans
        (congrArg (· + 52) (log2_eq_of_bounds low high))
    have rounded := normal_roundWithAccuracy .positive (exponent + -52) digits (by omega)
      (by omega)
    rw [scaledDown_mul_two_pow] at rounded
    have same : (exponent + -52 + (52 : Nat)) * (2 ^ 52 : Nat) + (mantissa : Int) = magnitude := by
      omega
    rw [same] at rounded
    exact rounded

theorem ofNat_of_small {number : Nat} (small : number < 2 ^ 53) :
    (Float.ofNat number).toModel =
      Float.Model.pack (mul .binary64
        (Float.Model.pack (UnpackedFloat.ofNat .binary64 number)).unpack
        (Float.ofBits 0x3FF0000000000000).toModel.unpack) := by
  have word : number.toUInt64.toNat = number :=
    UInt64.toNat_ofNat_of_lt' (Nat.lt_trans small (by decide))
  unfold Float.ofNat OfScientific.ofScientific
  simp only [instOfScientificFloat]
  unfold Float.ofScientific
  rw [dif_pos ⟨small, by decide⟩]
  change Float.Model.pack (mul .binary64
    (Float.Model.pack (UnpackedFloat.ofNat .binary64 number.toUInt64.toNat)).unpack _) = _
  rw [word]
  rfl

theorem ofNat_of_large {number : Nat} (large : 2 ^ 53 ≤ number) :
    (Float.ofNat number).toModel =
      Float.Model.pack (roundWithAccuracy .binary64 .positive (number * 2 ^ 53) (-53) .exact) := by
  unfold Float.ofNat OfScientific.ofScientific
  simp only [instOfScientificFloat]
  unfold Float.ofScientific
  rw [dif_neg fun both => Nat.not_lt.mpr large both.1]
  have shifted : (number <<< 53) * 10 ^ (0 : Int).toNat = number * 2 ^ 53 := by
    rw [Nat.shiftLeft_eq]
    exact Nat.mul_one _
  change Float.Model.pack (UnpackedFloat.ofScientific .binary64 number 0) = _
  have notSmall (digits : Nat) : ¬ (0 : Int) < -((2048 : Int) + digits) := by omega
  rw [UnpackedFloat.ofScientific, dif_neg (by omega), if_neg (by decide), ← shifted]
  exact congrArg Float.Model.pack
    ((if_neg (notSmall number.log2)).trans (if_pos (Int.le_refl 0)))

theorem normal_ofNat {number : Nat} (positive : 0 < number) (fits : number < 2 ^ 64) :
    Normal .positive (doubleMagnitude number) (Float.ofNat number).toModel.unpack := by
  rcases Nat.lt_or_ge number (2 ^ 53) with small | large
  · have digits : number.log2 ≤ 52 :=
      Nat.le_of_lt_succ ((Nat.log2_lt (Nat.ne_of_gt positive)).mpr small)
    have widened := normal_round_small positive digits
    have product := widened.mul_one (doubleMagnitude_le_of_small positive digits)
    rw [ofNat_of_small small, widened.unpack_pack, product.unpack_pack]
    exact product
  · have digits : number.log2 < 64 := (Nat.log2_lt (Nat.ne_of_gt positive)).mpr fits
    have many : 53 ≤ number.log2 := (Nat.le_log2 (Nat.ne_of_gt positive)).mpr large
    have rounded := normal_roundWithAccuracy .positive (-53) (log2_widened positive) (by omega)
      (by omega)
    rw [ofNat_of_large large, rounded.unpack_pack]
    have same : (-53 + ((number.log2 + 1 : Nat) : Int)) = (number.log2 : Int) - 52 := by omega
    rw [same] at rounded
    exact rounded

end Proviso.Number
