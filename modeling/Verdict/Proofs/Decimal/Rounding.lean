import Verdict.Proofs.Decimal.Layout

/-! Rounding keeps what needs none. When a product, a quotient or a natural number is equal to a
magnitude that a double holds, rounding it gives that double. -/

namespace Verdict.Decimal

open Float.Model Float.Model.UnpackedFloat

theorem log2_mul_two_pow {number : Nat} (positive : 0 < number) (shift : Nat) :
    (number * 2 ^ shift).log2 = number.log2 + shift := by
  induction shift with
  | zero => simp
  | succ shift ih =>
    have doubled : number * 2 ^ (shift + 1) = 2 * (number * 2 ^ shift) := by
      rw [Nat.pow_succ]
      ac_rfl
    rw [doubled, Nat.log2_two_mul (Nat.ne_of_gt (Nat.mul_pos positive (Nat.two_pow_pos shift))), ih]
    rfl

theorem log2_mul_le {left right : Nat} (leftPositive : 0 < left) (rightPositive : 0 < right) :
    (left * right).log2 ≤ left.log2 + right.log2 + 1 := by
  have bound : left * right < 2 ^ (left.log2 + 1 + (right.log2 + 1)) := by
    rw [Nat.pow_add]
    exact Nat.mul_lt_mul'' Nat.lt_log2_self Nat.lt_log2_self
  have product : left * right ≠ 0 := Nat.ne_of_gt (Nat.mul_pos leftPositive rightPositive)
  have := (Nat.log2_lt product).mpr bound
  omega

theorem shiftRight_exact (number shift : Nat) :
    ExtendedMantissa.mk (number * 2 ^ shift) false false >>> shift = ⟨number, false, false⟩ := by
  induction shift generalizing number with
  | zero => simp [HShiftRight.hShiftRight, Nat.repeat]
  | succ shift ih =>
    have doubled : number * 2 ^ (shift + 1) = 2 * number * 2 ^ shift := by
      rw [Nat.pow_succ]
      ac_rfl
    change (ExtendedMantissa.mk (number * 2 ^ (shift + 1)) false false >>> shift).shiftRightOne = _
    rw [doubled, ih]
    simp [ExtendedMantissa.shiftRightOne]

namespace Binary

variable {binary : Binary}

theorem targetExponent_eq (regular : binary.Regular) (positive : 0 < binary.significand)
    (shift : Nat) :
    Format.binary64.targetExponent
        (totalExponent (binary.significand * 2 ^ shift) (binary.exponent - shift)) =
      binary.exponent := by
  obtain ⟨fits, least, normal⟩ := regular
  change max (_ - 53) (-1074 : Int) = _
  unfold totalExponent
  rw [log2_mul_two_pow positive]
  by_cases large : 2 ^ 52 ≤ binary.significand
  · rw [Layout.log2_of_normal large fits]
    omega
  · have small := Layout.log2_of_subnormal positive (Nat.lt_of_not_le large)
    omega

theorem shiftToTargetExponent_eq (regular : binary.Regular) (positive : 0 < binary.significand)
    (shift : Nat) :
    shiftToTargetExponent Format.binary64 (binary.significand * 2 ^ shift)
        (binary.exponent - shift) .exact =
      (⟨binary.significand, false, false⟩, binary.exponent) := by
  have amount : (binary.exponent - (binary.exponent - shift)).toNat = shift := by omega
  unfold shiftToTargetExponent shiftToExponent
  simp only [targetExponent_eq regular positive, amount]
  change (ExtendedMantissa.mk (binary.significand * 2 ^ shift) false false >>> shift, _) = _
  rw [shiftRight_exact, Int.sub_add_cancel]

theorem roundWithAccuracy_eq (sign : Sign) (canonical : binary.Canonical)
    (positive : 0 < binary.significand) (shift : Nat) :
    roundWithAccuracy Format.binary64 sign (binary.significand * 2 ^ shift)
        (binary.exponent - shift) .exact = binary.signed sign := by
  have first := shiftToTargetExponent_eq canonical.regular positive shift
  have second := shiftToTargetExponent_eq canonical.regular positive 0
  rw [Nat.pow_zero, Nat.mul_one, Int.natCast_zero, Int.sub_zero] at second
  unfold roundWithAccuracy
  rw [first]
  change (match shiftToTargetExponent Format.binary64 binary.significand binary.exponent .exact with
    | (final, exponent) => if absent : final.mantissa = 0 then UnpackedFloat.zero sign else
        .finite sign final.mantissa exponent (Nat.pos_of_ne_zero absent)) = _
  rw [second]
  rfl

theorem log2_significand_le (canonical : binary.Canonical) : binary.significand.log2 ≤ 52 := by
  rcases Nat.eq_zero_or_pos binary.significand with absent | positive
  · rw [absent]
    decide
  · exact Nat.le_of_lt_succ ((Nat.log2_lt (Nat.ne_of_gt positive)).mpr canonical.fits)

section Quotient

variable {numerator denominator : Nat} {upper lower : Int} {raised lowered : Nat}
variable (canonical : binary.Canonical) (positive : 0 < binary.significand)
variable (numeratorPositive : 0 < numerator) (denominatorPositive : 0 < denominator)
variable (product : numerator * 2 ^ raised = binary.significand * denominator * 2 ^ lowered)
variable (balance : (raised : Int) - lowered = upper - lower - binary.exponent)
include canonical positive numeratorPositive denominatorPositive product balance

theorem targetExponent_quotient_le :
    Format.binary64.targetExponent
        (totalExponent numerator upper - totalExponent denominator lower) ≤ binary.exponent := by
  have numeratorLength := log2_mul_two_pow numeratorPositive raised
  have productLength := log2_mul_two_pow (Nat.mul_pos positive denominatorPositive) lowered
  have bound := log2_mul_le positive denominatorPositive
  have length := log2_significand_le canonical
  have least := canonical.least
  rw [product] at numeratorLength
  change max (_ - 53) (-1074 : Int) ≤ _
  unfold totalExponent
  omega

/-- A quotient that a double holds has no remainder. -/
theorem div_eq :
    UnpackedFloat.div Format.binary64 (.finite .positive numerator upper numeratorPositive)
        (.finite .positive denominator lower denominatorPositive) =
      binary.signed .positive := by
  have target := targetExponent_quotient_le canonical positive numeratorPositive
    denominatorPositive product balance
  generalize reachedEq : min (upper - lower) (Format.binary64.targetExponent
    (totalExponent numerator upper - totalExponent denominator lower)) = reached
  obtain ⟨spare, spareEq⟩ := Int.eq_ofNat_of_zero_le (a := binary.exponent - reached) (by omega)
  obtain ⟨shift, shiftEq⟩ := Int.eq_ofNat_of_zero_le (a := upper - lower - reached) (by omega)
  have shifted : numerator * 2 ^ shift = binary.significand * 2 ^ spare * denominator := by
    apply Nat.eq_of_mul_eq_mul_right (Nat.two_pow_pos lowered)
    have exchange : shift + lowered = raised + spare := by omega
    calc
      numerator * 2 ^ shift * 2 ^ lowered = numerator * 2 ^ raised * 2 ^ spare := by
        rw [Nat.mul_assoc, ← Nat.pow_add, exchange, Nat.pow_add, ← Nat.mul_assoc]
      _ = binary.significand * 2 ^ spare * denominator * 2 ^ lowered := by
        rw [product]
        ac_rfl
  have core : divCore Format.binary64 numerator upper denominator lower =
      (binary.significand * 2 ^ spare, binary.exponent - spare, .exact) := by
    unfold divCore
    simp only [reachedEq, shiftEq, Int.toNat_natCast, Nat.shiftLeft_eq, shifted,
      Nat.mul_div_cancel _ denominatorPositive, Nat.mul_mod_left]
    rw [show reached = binary.exponent - spare by omega]
    rfl
  simp only [UnpackedFloat.div, core]
  exact roundWithAccuracy_eq .positive canonical positive spare

end Quotient

def ofNat (number : Nat) : Binary :=
  { significand := number * 2 ^ (52 - number.log2), exponent := number.log2 - 52 }

theorem log2_le_of_fits {number : Nat} (fits : number < 2 ^ 53) : number.log2 ≤ 52 := by
  rcases Nat.eq_zero_or_pos number with rfl | positive
  · decide
  · exact Nat.le_of_lt_succ ((Nat.log2_lt (Nat.ne_of_gt positive)).mpr fits)

theorem ofNat_canonical {number : Nat} (positive : 0 < number) (fits : number < 2 ^ 53) :
    (ofNat number).Canonical := by
  have length := log2_le_of_fits fits
  have filled := log2_mul_two_pow positive (52 - number.log2)
  have positiveFilled := Nat.mul_pos positive (Nat.two_pow_pos (52 - number.log2))
  have bounds := (Nat.log2_eq_iff (Nat.ne_of_gt positiveFilled)).mp filled
  rw [show number.log2 + (52 - number.log2) = 52 by omega] at bounds
  exact ⟨bounds.2, by simp only [ofNat]; omega, by simp only [ofNat]; omega, .inr bounds.1⟩

theorem round_eq {number : Nat} (positive : 0 < number) (fits : number < 2 ^ 53) :
    UnpackedFloat.round Format.binary64 .positive number 0 = (ofNat number).signed .positive := by
  have length := log2_le_of_fits fits
  have target : Format.binary64.targetExponent (totalExponent number 0) = number.log2 - 52 := by
    change max (_ - 53) (-1074 : Int) = _
    unfold totalExponent
    omega
  have amount : (0 - (number.log2 - 52 : Int)).toNat = 52 - number.log2 := by omega
  have rounded := roundWithAccuracy_eq .positive (ofNat_canonical positive fits)
    (Nat.mul_pos positive (Nat.two_pow_pos _)) 0
  rw [Nat.pow_zero, Nat.mul_one, Int.natCast_zero, Int.sub_zero] at rounded
  unfold UnpackedFloat.round decreaseExponent
  simp only [target, amount, Nat.shiftLeft_eq]
  rw [show (0 : Int) - ↑(52 - number.log2) = number.log2 - 52 by omega]
  exact rounded

theorem toFloat_ofNat {number : Nat} (positive : 0 < number) (fits : number < 2 ^ 53) :
    number.toUInt64.toFloat = (ofNat number).toFloat .positive := by
  have whole : number.toUInt64.toNat = number := Nat.mod_eq_of_lt (by omega)
  have ordered : compare (number : Int) 0 = .gt := by
    rw [Int.compare_eq_gt]
    omega
  change Float.ofModel
    (.pack (UnpackedFloat.normalize Format.binary64 number.toUInt64.toNat 0 _)) = _
  rw [whole]
  simp only [UnpackedFloat.normalize, ordered, Int.toNat_natCast, round_eq positive fits]
  rfl

end Binary

end Verdict.Decimal
