import Verdict.Proofs.Decimal.Accuracy

/-! Where rounding overflows. A number of 64 bits and a power of ten are each rounded, and so is
their product: that is infinite for some numbers below the greatest double already. -/

namespace Verdict.Decimal.Binary

def greatest : Binary :=
  { significand := 2 ^ 53 - 1, exponent := 971 }

/-- What lies from here on is rounded to infinity. -/
def limit : ℚ := (2 ^ 53 - 1 / 2) * 2 ^ (971 : Int)

/-- The least number whose digits times its power of ten are rounded to infinity. -/
def leastOverflow : ℚ := 17976931348623156225 * 10 ^ 289

theorem greatest_canonical : greatest.Canonical :=
  ⟨by decide, by decide, by decide, .inr (by decide)⟩

theorem value_greatest : greatest.value = (2 ^ 53 - 1) * 2 ^ (971 : Int) := by
  rw [value, greatest]
  norm_num

theorem two_pow_top : (2 : ℚ) ^ (1024 : Int) = 2 ^ 53 * 2 ^ (971 : Int) := by
  rw [← zpow_natCast, ← zpow_add₀ two_ne_zero]
  rfl

theorem two_pow_unit : (2 : ℚ) ^ (971 : Int) = 2 ^ 243 * 2 ^ 243 * 2 ^ 243 * 2 ^ 242 := by
  rw [← pow_add, ← pow_add, ← pow_add, ← zpow_natCast]
  rfl

theorem ten_pow_long (more : Nat) : (10 : ℚ) ^ (289 + more) = 10 ^ 145 * 10 ^ 144 * 10 ^ more := by
  rw [← pow_add, ← pow_add]

theorem Rounds.canonical {number : ℚ} {binary : Binary} (rounds : Rounds number binary)
    (below : number < limit) : binary.Canonical := by
  have middle : limit = (greatest.significand + 1 / 2) * 2 ^ greatest.exponent := by
    rw [limit, greatest]
    norm_num
  have most := rounds.le_of_lt_middle greatest_canonical.regular (by decide) (middle ▸ below)
  exact rounds.regular.canonical (most.trans_lt greatest_canonical.value_lt)

section Product

variable {significand places : Nat} {left ten : Binary}
variable (leftRounds : Rounds significand left) (tenRounds : Rounds (10 ^ places) ten)
include tenRounds

theorem product_le {most : ℚ} (bound : left.value ≤ most) :
    left.value * ten.value ≤ most * 10 ^ places * growth := by
  have high := (tenRounds.within_of_one_le (one_le_pow₀ (by norm_num))).below
  rw [pow_one, add_zero] at high
  calc
    left.value * ten.value ≤ most * (10 ^ places * growth) := by
      have nonneg := left.value_nonneg.trans bound
      gcongr
      exact ten.value_nonneg
    _ = most * 10 ^ places * growth := (mul_assoc _ _ _).symm

theorem product_lt_of_few (few : places ≤ 288) (fits : left.value ≤ 2 ^ 64) :
    left.value * ten.value < limit := by
  have power : (3 / 2 * 10 ^ 72 : ℚ) ≤ 2 ^ 240 := by norm_num
  have grown : growth < 2 := by
    rw [growth]
    norm_num
  have grownPos := growth_pos
  have top : (2 : ℚ) ^ 64 * (2 ^ 240) ^ 4 = 2 ^ 53 * 2 ^ (971 : Int) := by
    rw [← pow_mul, ← pow_add, ← two_pow_top, ← zpow_natCast]
    rfl
  have bound : (10 : ℚ) ^ places * 5 ≤ (2 ^ 240) ^ 4 := by
    calc
      (10 : ℚ) ^ places * 5 ≤ 10 ^ 288 * (3 / 2) ^ 4 := by
        gcongr
        · norm_num
        · norm_num
      _ = (3 / 2 * 10 ^ 72) ^ 4 := by
        rw [show 288 = 72 * 4 from rfl, pow_mul, ← mul_pow, mul_comm]
      _ ≤ (2 ^ 240) ^ 4 := by gcongr
  calc
    left.value * ten.value ≤ 2 ^ 64 * 10 ^ places * growth := product_le tenRounds fits
    _ ≤ 2 ^ 64 * ((2 ^ 240) ^ 4 / 5) * 2 := by
      gcongr
      linarith
    _ = 2 ^ 53 * 2 / 5 * 2 ^ (971 : Int) := by
      rw [← mul_div_assoc, top]
      ring
    _ < limit := by
      rw [limit]
      gcongr
      norm_num

include leftRounds

theorem product_lt_of_middle (mantissa shift : Nat) (fits : mantissa < 2 ^ 53)
    (large : 2 ^ 52 ≤ mantissa) (middle : 2 * significand < (2 * mantissa + 1) * 2 ^ shift)
    (below : mantissa * 2 ^ shift * 10 ^ places * growth < limit) :
    left.value * ten.value < limit := by
  have regular : Regular ⟨mantissa, shift⟩ := ⟨fits, by simp only; omega, .inr large⟩
  have middleCast : (2 * significand : ℚ) < (2 * mantissa + 1) * 2 ^ shift := by
    exact_mod_cast middle
  have bound := leftRounds.le_of_lt_middle regular large (by rw [zpow_natCast]; linarith)
  rw [value, value, zpow_natCast] at bound
  exact (product_le tenRounds bound).trans_lt below

end Product

section Long

variable {significand more : Nat} {left ten : Binary}
variable (leftRounds : Rounds significand left) (tenRounds : Rounds (10 ^ (289 + more)) ten)
variable (within : significand * 10 ^ more < 17976931348623156225)
include leftRounds tenRounds within

theorem product_lt_of_short (short : more ≤ 3)
    (untied : ¬(significand = 17976931348623156224 ∧ more = 0)) :
    left.value * ten.value < limit := by
  have reach := product_lt_of_middle leftRounds tenRounds
  rw [limit, growth, two_pow_unit, ten_pow_long] at reach
  rw [limit, two_pow_unit]
  obtain rfl | rfl | rfl | rfl : more = 0 ∨ more = 1 ∨ more = 2 ∨ more = 3 := by omega
  · exact reach 8777798510069900 11 (by norm_num) (by norm_num) (by omega) (by norm_num)
  · exact reach 7022238808055920 8 (by norm_num) (by norm_num) (by omega) (by norm_num)
  · exact reach 5617791046444736 5 (by norm_num) (by norm_num) (by omega) (by norm_num)
  · exact reach 8988465674311578 1 (by norm_num) (by norm_num) (by omega) (by norm_num)

theorem product_lt_of_long (long : 4 ≤ more) : left.value * ten.value < limit := by
  obtain ⟨rest, rfl⟩ := Nat.exists_eq_add_of_le long
  have digits : significand * 10 ^ rest ≤ 1797693134862315 := by
    rw [pow_add, mul_left_comm] at within
    omega
  have power : 0 < 10 ^ rest := Nat.pow_pos (by decide)
  have exact : significand < 2 ^ 53 := by nlinarith
  have grown := growth_pos
  have digitsCast : (significand * 10 ^ rest : ℚ) ≤ 1797693134862315 := by exact_mod_cast digits
  calc
    left.value * ten.value ≤ significand * 10 ^ (289 + (4 + rest)) * growth :=
      product_le tenRounds (leftRounds.value_eq_natCast exact).le
    _ = significand * 10 ^ rest * 10 ^ (289 + 4) * growth := by
      rw [← Nat.add_assoc, pow_add _ (289 + 4) rest, mul_comm (_ ^ (289 + 4)), ← mul_assoc]
    _ ≤ 1797693134862315 * 10 ^ (289 + 4) * growth := by gcongr
    _ < limit := by
      rw [limit, growth, two_pow_unit, ten_pow_long]
      norm_num

end Long

/-- Up to 288 places the product is never too great. With more of them the digits are few, and the
power of ten says which double they are rounded to at most. -/
theorem product_lt {significand places : Nat} {left ten : Binary}
    (leftRounds : Rounds significand left) (tenRounds : Rounds (10 ^ places) ten)
    (fits : left.value ≤ 2 ^ 64) (within : significand * 10 ^ places < leastOverflow)
    (untied : ¬(significand = 17976931348623156224 ∧ places = 289)) :
    left.value * ten.value < limit := by
  rcases Nat.lt_or_ge places 289 with few | many
  · exact product_lt_of_few tenRounds (Nat.le_of_lt_succ few) fits
  · obtain ⟨more, rfl⟩ := Nat.exists_eq_add_of_le many
    have digits : significand * 10 ^ more < 17976931348623156225 := by
      rw [leastOverflow, pow_add, mul_left_comm, mul_comm] at within
      exact_mod_cast lt_of_mul_lt_mul_right within (by positivity)
    rcases Nat.lt_or_ge more 4 with short | long
    · refine product_lt_of_short leftRounds tenRounds digits (Nat.le_of_lt_succ short) ?_
      rintro ⟨middle, rfl⟩
      exact untied ⟨middle, rfl⟩
    · exact product_lt_of_long leftRounds tenRounds digits long

theorem leastOverflow_lt : leastOverflow < 10 ^ 309 := by
  rw [leastOverflow, show 309 = 20 + 289 from rfl, pow_add]
  gcongr
  norm_num

/-- Of the multiples of ten to the 291 only eight lie between the least overflow and the greatest
double. -/
theorem digits_of_leastOverflow_le {significand more : Nat}
    (great : leastOverflow ≤ significand * 10 ^ (291 + more))
    (within : significand * 10 ^ (291 + more) ≤ greatest.value) :
    179769313486231563 ≤ significand * 10 ^ more ∧
      significand * 10 ^ more ≤ 179769313486231570 := by
  have power : (significand * 10 ^ (291 + more) : ℚ) =
      significand * 10 ^ more * 100 * 10 ^ 289 := by
    rw [show 291 + more = more + 2 + 289 by omega, pow_add, pow_add, ← mul_assoc, ← mul_assoc]
    norm_num
  have top : greatest.value < 179769313486231571 * 100 * 10 ^ 289 := by
    rw [value_greatest, two_pow_unit, ten_pow_long 0]
    norm_num
  have positive : (0 : ℚ) < 10 ^ 289 := by positivity
  rw [power] at great within
  have low : 17976931348623156225 ≤ significand * 10 ^ more * 100 := by
    exact_mod_cast le_of_mul_le_mul_right great positive
  have high : significand * 10 ^ more * 100 < 179769313486231571 * 100 := by
    exact_mod_cast lt_of_mul_lt_mul_right (within.trans_lt top) positive.le
  omega

end Verdict.Decimal.Binary
