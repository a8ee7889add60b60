import Verdict.Proofs.Decimal.Closest

/-! Products, quotients and powers of ten are each rounded once, to a closest magnitude. -/

namespace Verdict.Decimal.Binary

open Float.Model Float.Model.UnpackedFloat

def zero : Binary :=
  { significand := 0, exponent := -1074 }

theorem zero_canonical : zero.Canonical :=
  ⟨by decide, by decide, by decide, .inl rfl⟩

theorem value_zero : zero.value = 0 := by
  simp [value, zero]

theorem rounds_zero : Rounds 0 zero :=
  ⟨zero_canonical.regular, by simp [value_zero], by simp [value_zero]⟩

variable {left right binary : Binary}

theorem exists_product (leftCanonical : left.Canonical) (rightCanonical : right.Canonical)
    (leftLarge : 2 ^ 52 ≤ left.significand) (rightLarge : 2 ^ 52 ≤ right.significand) :
    ∃ product, Rounds (left.value * right.value) product ∧
      left.toFloat .positive * right.toFloat .positive = product.toFloat .positive := by
  have leftPositive := Nat.lt_of_lt_of_le (Nat.two_pow_pos 52) leftLarge
  have rightPositive := Nat.lt_of_lt_of_le (Nat.two_pow_pos 52) rightLarge
  have long : 2 ^ 52 ≤ left.significand * right.significand ∨
      left.exponent + right.exponent ≤ -1074 :=
    .inl (leftLarge.trans (Nat.le_mul_of_pos_right _ rightPositive))
  obtain ⟨product, rounds, rounded⟩ := exists_rounded (Truncates.exact _) long .positive
  refine ⟨product, ?_, ?_⟩
  · have exact : ((left.significand * right.significand : Nat) : ℚ) *
        2 ^ (left.exponent + right.exponent) = left.value * right.value := by
      rw [zpow_add₀ two_ne_zero, value, value]
      push_cast
      ring
    rwa [exact] at rounds
  · change Float.ofModel (.pack (UnpackedFloat.mul Format.binary64
      (left.toFloat .positive).toModel.unpack (right.toFloat .positive).toModel.unpack)) = _
    rw [unpack_toFloat leftCanonical, unpack_toFloat rightCanonical,
      signed_of_pos leftPositive, signed_of_pos rightPositive]
    exact congrArg (fun unpacked => Float.ofModel (.pack unpacked)) rounded

theorem exists_divCore {numerator denominator : Nat} (numeratorPositive : 0 < numerator)
    (denominatorPositive : 0 < denominator) (upper lower : Int) :
    ∃ (quotient : Nat) (exponent : Int) (accuracy : Accuracy) (number : ℚ),
      divCore Format.binary64 numerator upper denominator lower = (quotient, exponent, accuracy) ∧
      Truncates (.ofMantissaAndAccuracy quotient accuracy) number ∧
      number * 2 ^ exponent = numerator * 2 ^ upper / (denominator * 2 ^ lower) ∧
      (2 ^ 52 ≤ quotient ∨ exponent ≤ -1074) := by
  let reached := min (upper - lower) (max (numerator.log2 + 1 + upper -
    (denominator.log2 + 1 + lower) - 53) (-1074))
  have reachedEq : reached = min (upper - lower) (max (numerator.log2 + 1 + upper -
    (denominator.log2 + 1 + lower) - 53) (-1074)) := rfl
  obtain ⟨shift, shiftEq⟩ := Int.eq_ofNat_of_zero_le (a := upper - lower - reached) (by omega)
  have core : divCore Format.binary64 numerator upper denominator lower =
      (numerator * 2 ^ shift / denominator, reached,
        accuracyOfFraction (numerator * 2 ^ shift % denominator) denominator) := by
    change (numerator <<< (upper - lower - reached).toNat / denominator, reached,
      accuracyOfFraction (numerator <<< (upper - lower - reached).toNat % denominator)
        denominator) = _
    rw [shiftEq, Int.toNat_natCast, Nat.shiftLeft_eq]
  refine ⟨_, _, _, _, core, Truncates.fraction _ (Nat.mod_lt _ denominatorPositive), ?_, ?_⟩
  · have positive : (denominator : ℚ) ≠ 0 := by exact_mod_cast denominatorPositive.ne'
    have division : ((numerator * 2 ^ shift / denominator : Nat) : ℚ) +
        (numerator * 2 ^ shift % denominator : Nat) / denominator =
          numerator * 2 ^ shift / denominator := by
      rw [eq_div_iff positive, add_mul, div_mul_cancel₀ _ positive]
      exact_mod_cast Nat.div_add_mod' (numerator * 2 ^ shift) denominator
    have exponents : upper = lower + (shift + reached) := by omega
    rw [division, exponents, zpow_add₀ two_ne_zero, zpow_add₀ two_ne_zero, zpow_natCast]
    have unit : (2 : ℚ) ^ lower ≠ 0 := zpow_ne_zero _ two_ne_zero
    field_simp
  · rcases le_or_gt reached (-1074) with lowest | above
    · exact .inr lowest
    · left
      rw [Nat.le_div_iff_mul_le denominatorPositive]
      calc
        2 ^ 52 * denominator ≤ 2 ^ 52 * 2 ^ (denominator.log2 + 1) :=
          Nat.mul_le_mul_left _ Nat.lt_log2_self.le
        _ = 2 ^ (52 + (denominator.log2 + 1)) := (pow_add _ _ _).symm
        _ ≤ 2 ^ (numerator.log2 + shift) := Nat.pow_le_pow_right two_pos (by omega)
        _ = 2 ^ numerator.log2 * 2 ^ shift := pow_add _ _ _
        _ ≤ numerator * 2 ^ shift :=
          Nat.mul_le_mul_right _ (Nat.log2_self_le numeratorPositive.ne')

theorem exists_quotient (leftCanonical : left.Canonical) (rightCanonical : right.Canonical)
    (rightPositive : 0 < right.significand) :
    ∃ quotient, Rounds (left.value / right.value) quotient ∧
      left.toFloat .positive / right.toFloat .positive = quotient.toFloat .positive := by
  have unpacked : left.toFloat .positive / right.toFloat .positive =
      Float.ofModel (.pack (UnpackedFloat.div Format.binary64 (left.signed .positive)
        (.finite .positive right.significand right.exponent rightPositive))) := by
    rw [← signed_of_pos rightPositive, ← unpack_toFloat leftCanonical,
      ← unpack_toFloat rightCanonical]
    rfl
  rcases Nat.eq_zero_or_pos left.significand with nothing | leftPositive
  · have absent : left.value = 0 := by rw [value, nothing, Nat.cast_zero, zero_mul]
    refine ⟨zero, ?_, ?_⟩
    · rw [absent, zero_div]
      exact rounds_zero
    · rw [unpacked, signed, dif_pos nothing]
      rfl
  · obtain ⟨quotient, exponent, accuracy, number, core, cut, exact, long⟩ :=
      exists_divCore leftPositive rightPositive left.exponent right.exponent
    obtain ⟨binary, rounds, rounded⟩ := exists_rounded cut long .positive
    refine ⟨binary, ?_, ?_⟩
    · rwa [exact] at rounds
    · rw [unpacked, signed_of_pos leftPositive, UnpackedFloat.div, core]
      exact congrArg (fun unpacked => Float.ofModel (.pack unpacked)) rounded

def powerOfTwo (power : Nat) : Binary :=
  { significand := 2 ^ 52, exponent := power - 52 }

theorem powerOfTwo_regular (power : Nat) : (powerOfTwo power).Regular :=
  ⟨Nat.pow_lt_pow_succ (by decide), by simp only [powerOfTwo]; omega, .inr (Nat.le_refl _)⟩

theorem value_powerOfTwo (power : Nat) : (powerOfTwo power).value = 2 ^ power := by
  rw [value, powerOfTwo, zpow_sub₀ two_ne_zero, zpow_natCast]
  push_cast
  field_simp

theorem Rounds.one_le {number : ℚ} (rounds : Rounds number binary) (one : 1 ≤ number) :
    1 ≤ binary.value := by
  have unit := value_powerOfTwo 0
  rw [pow_zero] at unit
  have least := rounds.ge_of_ge (powerOfTwo_regular 0) (by rwa [unit])
  rwa [unit] at least

theorem ofNat_large {number : Nat} (positive : 0 < number) (fits : number < 2 ^ 53) :
    2 ^ 52 ≤ (ofNat number).significand := by
  rcases (ofNat_canonical positive fits).normal with lowest | large
  · simp only [ofNat] at lowest
    omega
  · exact large

theorem value_ofNat {number : Nat} (fits : number < 2 ^ 53) : (ofNat number).value = number := by
  have length := log2_le_of_fits fits
  have shift : ((52 - number.log2 : Nat) : Int) = -(number.log2 - 52 : Int) := by omega
  have power : (2 : ℚ) ^ (52 - number.log2) * 2 ^ (number.log2 - 52 : Int) = 1 := by
    rw [← zpow_natCast, shift, ← zpow_add₀ two_ne_zero, neg_add_cancel, zpow_zero]
  rw [value, ofNat]
  push_cast
  rw [mul_assoc, power, mul_one]

theorem five_pow_lt {power : Nat} (small : power ≤ 22) : 5 ^ power < 2 ^ 53 :=
  Nat.lt_of_le_of_lt (Nat.pow_le_pow_right (by decide) small) (by decide)

theorem value_powerOfTen {power : Nat} (small : power ≤ 22) :
    (powerOfTen power).value = 10 ^ power := by
  calc
    (powerOfTen power).value = (ofNat (5 ^ power)).value * 2 ^ power := by
      rw [value, value, powerOfTen, zpow_add₀ two_ne_zero, zpow_natCast, mul_assoc]
    _ = 10 ^ power := by
      rw [value_ofNat (five_pow_lt small)]
      push_cast
      rw [← mul_pow]
      norm_num

theorem Rounds.value_eq_natCast {number : Nat} (rounds : Rounds number binary)
    (fits : number < 2 ^ 53) : binary.value = number := by
  rcases Nat.eq_zero_or_pos number with rfl | positive
  · rw [Nat.cast_zero, ← value_zero] at rounds ⊢
    exact rounds.value_eq zero_canonical.regular
  · rw [← value_ofNat fits] at rounds ⊢
    exact rounds.value_eq (ofNat_canonical positive fits).regular

theorem Rounds.value_eq_pow {power : Nat} (rounds : Rounds (10 ^ power) binary)
    (small : power ≤ 22) : binary.value = 10 ^ power := by
  rw [← value_powerOfTen small] at rounds ⊢
  exact rounds.value_eq (powerOfTen_canonical small).regular

theorem exists_ofScientific {significand power : Nat} (positive : 0 < significand)
    (bound : power ≤ 2048) :
    ∃ binary : Binary, Rounds (significand * 10 ^ power) binary ∧
      Float.ofScientific significand false power = binary.toFloat .positive := by
  unfold Float.ofScientific
  split
  · rename_i small
    obtain ⟨fits, few⟩ := small
    obtain ⟨binary, rounds, product⟩ := exists_product (ofNat_canonical positive fits)
      (powerOfTen_canonical few) (ofNat_large positive fits)
      (ofNat_large (Nat.pow_pos (by decide)) (five_pow_lt few))
    rw [value_ofNat fits, value_powerOfTen few] at rounds
    refine ⟨binary, rounds, ?_⟩
    simp only [getElem_exactlyRepresentablePowersOfTen, toFloat_ofNat positive fits, product,
      Bool.false_eq_true, if_false]
  · have ten : 0 < 10 ^ power := Nat.pow_pos (by decide)
    have long : 2 ^ 52 ≤ significand * 2 ^ 53 * 10 ^ power ∨ (-53 : Int) ≤ -1074 :=
      .inl (by nlinarith)
    obtain ⟨binary, rounds, rounded⟩ := exists_rounded (Truncates.exact _) long .positive
    refine ⟨binary, ?_, ?_⟩
    · have exact : ((significand * 2 ^ 53 * 10 ^ power : Nat) : ℚ) * 2 ^ (-53 : Int) =
          significand * 10 ^ power := by
        push_cast
        rw [zpow_neg]
        field_simp
        norm_num
      rwa [exact] at rounds
    · have limit : (2 : Int) ^ Format.binary64.exponentBits = 2048 := rfl
      have notHuge : ¬(power : Int) > 2048 := by omega
      have notTiny : ¬(power : Int) < -(2048 + significand.log2) := by omega
      rw [if_neg Bool.false_ne_true]
      change Float.ofModel (.pack (UnpackedFloat.ofScientific Format.binary64 _ _)) = _
      unfold UnpackedFloat.ofScientific
      simp only [Int.ofNat_eq_natCast, limit, dif_neg (Nat.ne_of_gt positive), if_neg notHuge,
        if_neg notTiny, if_pos (Int.natCast_nonneg power), Int.toNat_natCast, Nat.shiftLeft_eq]
      exact congrArg (fun unpacked => Float.ofModel (.pack unpacked)) rounded

theorem exists_ofNat (number : Nat) :
    ∃ binary : Binary, Rounds number binary ∧ Float.ofNat number = binary.toFloat .positive := by
  rcases Nat.eq_zero_or_pos number with rfl | positive
  · exact ⟨zero, by simpa using rounds_zero, by decide⟩
  · obtain ⟨binary, rounds, same⟩ := exists_ofScientific positive (Nat.zero_le 2048)
    rw [pow_zero, mul_one] at rounds
    exact ⟨binary, rounds, same⟩

end Verdict.Decimal.Binary
