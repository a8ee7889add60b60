import Verdict.Json.Number
import Verdict.Proofs.Decimal.Accuracy

/-! A number times a power of ten, as a double. It is never far from the exact number, and where
number and power are doubles themselves it is a closest one. -/

namespace Verdict.Json.Written

open Decimal Decimal.Binary

section Operands

theorem exists_significand {significand : Nat} (fits : significand < UInt64.size) :
    ∃ binary : Binary, Rounds significand binary ∧ binary.Canonical ∧ binary.value ≤ 2 ^ 64 ∧
      Float.ofNat significand = binary.toFloat .positive := by
  obtain ⟨binary, rounds, same⟩ := exists_ofNat significand
  have bound : (significand : ℚ) ≤ 2 ^ 64 := by exact_mod_cast fits.le
  have limit := value_powerOfTwo 64
  have below := rounds.le_of_le (powerOfTwo_regular 64) (by rwa [limit])
  rw [limit] at below
  refine ⟨binary, rounds, rounds.regular.canonical (below.trans_lt ?_), below, same⟩
  rw [← zpow_natCast]
  exact zpow_lt_zpow_right₀ one_lt_two (by decide)

theorem ten_pow_lt : (10 : ℚ) ^ maxPlaces * growth < 2 ^ (1024 : Int) := by
  have power : (11 * 10 ^ 76 : ℚ) ≤ 2 ^ 256 := by norm_num
  calc
    (10 : ℚ) ^ maxPlaces * growth < 10 ^ maxPlaces * (11 / 10) ^ 4 := by
      gcongr
      rw [growth]
      norm_num
    _ = (11 * 10 ^ 76) ^ 4 := by
      rw [maxPlaces, show 308 = 77 * 4 from rfl, pow_mul, ← mul_pow]
      norm_num
    _ ≤ (2 ^ 256) ^ 4 := by gcongr
    _ = 2 ^ (1024 : Int) := by
      rw [← pow_mul, ← zpow_natCast]
      rfl

theorem exists_tenTo {places : Nat} (few : places ≤ maxPlaces) :
    ∃ ten : Binary, Rounds (10 ^ places) ten ∧ ten.Canonical ∧ 2 ^ 52 ≤ ten.significand ∧
      tenTo places = ten.toFloat .positive := by
  have one : (1 : ℚ) ≤ 10 ^ places := one_le_pow₀ (by norm_num)
  obtain ⟨ten, rounds, same⟩ :=
    exists_ofScientific Nat.one_pos (few.trans (by decide : maxPlaces ≤ 2048))
  rw [Nat.cast_one, one_mul] at rounds
  have below := (rounds.within_of_one_le one).below
  have limit : ten.value < 2 ^ (1024 : Int) := by
    calc
      ten.value ≤ 10 ^ places * growth := by rwa [pow_one, add_zero] at below
      _ ≤ 10 ^ maxPlaces * growth := by
        have := growth_pos
        gcongr
        norm_num
      _ < 2 ^ (1024 : Int) := ten_pow_lt
  exact ⟨ten, rounds, rounds.regular.canonical limit,
    rounds.regular.large (rounds.one_le one), same⟩

end Operands

section Division

variable {value : Binary} {number slack : ℚ} {count places : Nat}

theorem exists_divided (canonical : value.Canonical) (few : places ≤ maxPlaces) :
    ∃ ten quotient : Binary, Rounds (10 ^ places) ten ∧ Rounds (value.value / ten.value) quotient ∧
      quotient.Canonical ∧
      value.toFloat .positive / tenTo places = quotient.toFloat .positive := by
  obtain ⟨ten, tenRounds, tenCanonical, large, tenEq⟩ := exists_tenTo few
  have positive : 0 < ten.significand := Nat.lt_of_lt_of_le (Nat.two_pow_pos 52) large
  obtain ⟨quotient, rounds, quotientEq⟩ := exists_quotient canonical tenCanonical positive
  have one : 1 ≤ ten.value := tenRounds.one_le (one_le_pow₀ (by norm_num))
  have below := rounds.le_of_le canonical.regular (div_le_self value.value_nonneg one)
  refine ⟨ten, quotient, tenRounds, rounds, rounds.regular.canonical ?_, by rw [tenEq, quotientEq]⟩
  exact below.trans_lt canonical.value_lt

theorem exists_divided_within (canonical : value.Canonical) (few : places ≤ maxPlaces)
    (within : Within count slack number value.value) (nonneg : 0 ≤ slack) :
    ∃ quotient : Binary, quotient.Canonical ∧
      Within (count + 2) (slack * growth / 10 ^ places * growth + tiny) (number / 10 ^ places)
        quotient.value ∧
      value.toFloat .positive / tenTo places = quotient.toFloat .positive := by
  have one : (1 : ℚ) ≤ 10 ^ places := one_le_pow₀ (by norm_num)
  have power : (0 : ℚ) < 10 ^ places := by positivity
  obtain ⟨ten, quotient, tenRounds, rounds, quotientCanonical, same⟩ :=
    exists_divided canonical few
  have ratio := within.div (tenRounds.within_of_one_le one) nonneg value.value_nonneg power
  have grown := growth_pos
  have exact : 0 ≤ value.value / ten.value := div_nonneg value.value_nonneg ten.value_nonneg
  have rounded := ratio.trans (rounds.within exact) (by positivity)
  rw [pow_one] at rounded
  exact ⟨quotient, quotientCanonical, rounded, same⟩

theorem beq_zero_of_pos (canonical : value.Canonical) (positive : 0 < value.significand) :
    (value.toFloat .positive == 0.0) = false := by
  change (value.toFloat .positive).toModel.unpack.beq (0.0 : Float).toModel.unpack = false
  rw [unpack_toFloat canonical, signed_of_pos positive]
  rfl

theorem significand_eq_zero (small : value.value < 2 ^ (-1074 : Int))
    (canonical : value.Canonical) : value.significand = 0 := by
  by_contra present
  refine absurd small (not_lt.mpr ?_)
  have one : (1 : ℚ) ≤ value.significand := by
    exact_mod_cast Nat.one_le_iff_ne_zero.mpr present
  calc
    (2 : ℚ) ^ (-1074 : Int) ≤ 2 ^ value.exponent :=
      zpow_le_zpow_right₀ one_le_two canonical.least
    _ ≤ value.significand * 2 ^ value.exponent := le_mul_of_one_le_left (by positivity) one

theorem divideByTens_zero (places : Nat) : divideByTens 0.0 places = 0.0 := by
  rw [divideByTens]
  split
  · rename_i few
    have nothing : zero.toFloat .positive = 0.0 := toFloat_zero rfl
    obtain ⟨ten, quotient, -, rounds, canonical, same⟩ := exists_divided zero_canonical few
    rw [value_zero, zero_div, ← value_zero] at rounds
    rw [nothing] at same
    rw [same]
    refine toFloat_zero (significand_eq_zero ?_ canonical)
    rw [rounds.value_eq zero_canonical.regular, value_zero]
    positivity
  · exact if_pos (by decide)

/-- What divisions may leave out of account below the normal doubles. -/
def margin : ℚ := 3 / 2 * tiny

theorem margin_lt : margin < 2 ^ (-1074 : Int) := by
  have positive := tiny_pos
  rw [margin, ← two_mul_tiny]
  linarith

theorem within_zero (nonneg : 0 ≤ number) (little : number ≤ tiny) : Within 5 margin number 0 := by
  have positive := tiny_pos
  have power : 1 ≤ growth ^ 5 := one_le_pow₀ one_le_growth
  have least : 0 < growth ^ 5 := zero_lt_one.trans_le power
  constructor
  · have shrunk : number / growth ^ 5 ≤ number := div_le_self nonneg power
    rw [margin]
    linarith
  · have : 0 ≤ number * growth ^ 5 := by positivity
    rw [margin]
    linarith

/-- What a magnitude close to a number becomes when it is divided is close to the divided number. -/
def DividesWithin (value : Binary) (number : ℚ) (places : Nat) : Prop :=
  ∃ quotient : Binary, quotient.Canonical ∧
    Within 5 margin (number / 10 ^ places) quotient.value ∧
    divideByTens (value.toFloat .positive) places = quotient.toFloat .positive

theorem dividesWithin_zero (absent : value.significand = 0) (nonneg : 0 ≤ number)
    (little : number / 10 ^ places ≤ tiny) : DividesWithin value number places := by
  refine ⟨zero, zero_canonical, ?_, ?_⟩
  · rw [value_zero]
    exact within_zero (by positivity) little
  · rw [toFloat_zero absent, divideByTens_zero, toFloat_zero rfl]

theorem divideByTens_few (value : Float) (few : places ≤ maxPlaces) :
    divideByTens value places = value / tenTo places := by
  rw [divideByTens, if_pos few]

theorem divideByTens_many (canonical : value.Canonical) (positive : 0 < value.significand)
    (many : ¬places ≤ maxPlaces) :
    divideByTens (value.toFloat .positive) places =
      divideByTens (value.toFloat .positive / tenTo maxPlaces) (places - maxPlaces) := by
  rw [divideByTens, if_neg many, beq_zero_of_pos canonical positive, if_neg Bool.false_ne_true]

theorem two_pow_le_maxTen : (2 : ℚ) ^ (924 : Int) ≤ 10 ^ maxPlaces := by
  rw [show (924 : Int) = (3 * maxPlaces : Nat) from rfl, zpow_natCast, pow_mul]
  gcongr
  norm_num

/-- Either the power is not too great for a double, or there is a rest of it after one division. -/
theorem DividesWithin.step (canonical : value.Canonical)
    (within : Within count slack number value.value) (nonneg : 0 ≤ number) (early : count ≤ 3)
    (slackNonneg : 0 ≤ slack) (vanished : value.significand = 0 → number / 10 ^ places ≤ tiny)
    (slacked : slack * growth / 10 ^ places * growth + tiny ≤ margin)
    (rest : maxPlaces < places → ∀ quotient : Binary, quotient.Canonical →
      Within (count + 2) (slack * growth / 10 ^ maxPlaces * growth + tiny)
        (number / 10 ^ maxPlaces) quotient.value →
      DividesWithin quotient (number / 10 ^ maxPlaces) (places - maxPlaces)) :
    DividesWithin value number places := by
  rcases Nat.eq_zero_or_pos value.significand with absent | present
  · exact dividesWithin_zero absent nonneg (vanished absent)
  · by_cases few : places ≤ maxPlaces
    · obtain ⟨quotient, quotientCanonical, near, same⟩ :=
        exists_divided_within canonical few within slackNonneg
      refine ⟨quotient, quotientCanonical, ?_, by rw [divideByTens_few _ few, same]⟩
      exact near.mono (by positivity) (Nat.add_le_add_right early 2) slacked
    · obtain ⟨quotient, quotientCanonical, near, same⟩ :=
        exists_divided_within canonical le_rfl within slackNonneg
      obtain ⟨last, lastCanonical, lastNear, lastSame⟩ :=
        rest (Nat.lt_of_not_le few) quotient quotientCanonical near
      rw [div_div, ← pow_add, Nat.add_sub_cancel' (Nat.le_of_not_le few)] at lastNear
      refine ⟨last, lastCanonical, lastNear, ?_⟩
      rw [divideByTens_many canonical present few, same, lastSame]

theorem slack_le_margin (more : 0 < places) :
    tiny * growth / 10 ^ places * growth + tiny ≤ margin := by
  have grown := growth_pos
  have positive := tiny_pos
  have ten : (10 : ℚ) ≤ 10 ^ places := le_self_pow₀ (by norm_num) more.ne'
  have square : growth * growth ≤ 5 := by
    rw [growth]
    norm_num
  calc
    tiny * growth / 10 ^ places * growth + tiny ≤ tiny * growth / 10 * growth + tiny := by gcongr
    _ = tiny * (growth * growth) / 10 + tiny := by ring
    _ ≤ tiny * 5 / 10 + tiny := by gcongr
    _ = margin := by
      rw [margin]
      ring

/-- A second division still counts; from then on nothing is left. -/
theorem dividesWithin_again (canonical : value.Canonical) (nonneg : 0 ≤ number)
    (small : number ≤ 2 ^ (-800 : Int)) (within : Within 3 tiny number value.value)
    (more : 0 < places) : DividesWithin value number places := by
  have positive := tiny_pos
  have grown := growth_pos
  refine .step canonical within nonneg le_rfl positive.le ?_ (slack_le_margin more) ?_
  · intro absent
    have low := within.above
    rw [Binary.value, absent, Nat.cast_zero, zero_mul, sub_nonpos,
      div_le_iff₀ (by positivity)] at low
    have ten : (10 : ℚ) ≤ 10 ^ places := le_self_pow₀ (by norm_num) more.ne'
    have cube : growth ^ 3 ≤ 10 := by
      rw [growth]
      norm_num
    calc
      number / 10 ^ places ≤ tiny * growth ^ 3 / 10 := by gcongr
      _ ≤ tiny * 10 / 10 := by gcongr
      _ = tiny := by ring
  · intro _ quotient quotientCanonical near
    have little : number / 10 ^ maxPlaces ≤ tiny / 16 := by
      have least := two_pow_le_maxTen
      calc
        number / 10 ^ maxPlaces ≤ 2 ^ (-800 : Int) / 2 ^ (924 : Int) := by gcongr
        _ = 2 ^ (-1724 : Int) := by
          rw [← zpow_sub₀ two_ne_zero]
          rfl
        _ ≤ 2 ^ (-1079 : Int) := zpow_le_zpow_right₀ one_le_two (by decide)
        _ = tiny / 16 := by
          rw [tiny, show (-1079 : Int) = -1075 - 4 from rfl, zpow_sub₀ two_ne_zero]
          norm_num
    have nothing : quotient.value < 2 ^ (-1074 : Int) := by
      have power : growth ^ 5 ≤ 2 := by
        rw [growth]
        norm_num
      have slack : tiny * growth / 10 ^ maxPlaces * growth + tiny ≤ margin :=
        slack_le_margin (by decide)
      calc
        quotient.value ≤ number / 10 ^ maxPlaces * growth ^ 5 +
            (tiny * growth / 10 ^ maxPlaces * growth + tiny) := near.below
        _ ≤ tiny / 16 * 2 + margin := by gcongr
        _ < 2 ^ (-1074 : Int) := by
          rw [margin, ← two_mul_tiny]
          linarith
    refine dividesWithin_zero (significand_eq_zero nothing quotientCanonical) (by positivity) ?_
    calc
      number / 10 ^ maxPlaces / 10 ^ (places - maxPlaces) ≤ number / 10 ^ maxPlaces :=
        div_le_self (by positivity) (one_le_pow₀ (by norm_num))
      _ ≤ tiny := by linarith

theorem dividesWithin (canonical : value.Canonical) (bound : value.value ≤ 2 ^ 64)
    (nonneg : 0 ≤ number) (within : Within 1 0 number value.value) (places : Nat) :
    DividesWithin value number places := by
  have positive := tiny_pos
  have grown := growth_pos
  have low : number ≤ value.value * growth := by
    have above := within.above
    rwa [pow_one, sub_zero, div_le_iff₀ grown] at above
  refine .step canonical within nonneg (by decide) le_rfl ?_ ?_ ?_
  · intro absent
    rw [Binary.value, absent, Nat.cast_zero, zero_mul, zero_mul] at low
    rw [le_antisymm low nonneg, zero_div]
    exact positive.le
  · rw [zero_mul, zero_div, zero_mul, zero_add, margin]
    linarith
  · intro many quotient quotientCanonical near
    rw [zero_mul, zero_div, zero_mul, zero_add] at near
    have most : number ≤ 2 ^ 65 := by
      have double : growth ≤ 2 := by
        rw [growth]
        norm_num
      nlinarith
    have small : number / 10 ^ maxPlaces ≤ 2 ^ (-800 : Int) := by
      have least := two_pow_le_maxTen
      calc
        number / 10 ^ maxPlaces ≤ 2 ^ (65 : Int) / 2 ^ (924 : Int) := by
          gcongr
          exact_mod_cast most
        _ = 2 ^ (-859 : Int) := by
          rw [← zpow_sub₀ two_ne_zero]
          rfl
        _ ≤ 2 ^ (-800 : Int) := zpow_le_zpow_right₀ one_le_two (by decide)
    exact dividesWithin_again quotientCanonical (by positivity) small near (Nat.sub_pos_of_lt many)

end Division

section Scaling

variable {significand places : Nat} {exponent : Int} {value : Float}
variable (fits : significand < UInt64.size)
include fits

theorem exists_multiplied (positive : 0 < significand) (few : places ≤ maxPlaces) :
    ∃ left ten product : Binary, Rounds significand left ∧ left.value ≤ 2 ^ 64 ∧
      Rounds (10 ^ places) ten ∧ Rounds (left.value * ten.value) product ∧
      Float.ofNat significand * tenTo places = product.toFloat .positive := by
  obtain ⟨left, leftRounds, leftCanonical, bound, leftEq⟩ := exists_significand fits
  obtain ⟨ten, tenRounds, tenCanonical, tenLarge, tenEq⟩ := exists_tenTo few
  have one : 1 ≤ left.value := leftRounds.one_le (by exact_mod_cast positive)
  obtain ⟨product, rounds, productEq⟩ :=
    exists_product leftCanonical tenCanonical (leftRounds.regular.large one) tenLarge
  exact ⟨left, ten, product, leftRounds, bound, tenRounds, rounds, by rw [leftEq, tenEq, productEq]⟩

theorem ofNat_beq_zero (positive : 0 < significand) : (Float.ofNat significand == 0.0) = false := by
  obtain ⟨left, rounds, canonical, -, same⟩ := exists_significand fits
  have one : 1 ≤ left.value := rounds.one_le (by exact_mod_cast positive)
  rw [same]
  exact beq_zero_of_pos canonical
    (Nat.lt_of_lt_of_le (Nat.two_pow_pos 52) (rounds.regular.large one))

theorem scaled?_cases (found : scaled? significand exponent = some value) :
    (∃ places : Nat, exponent = -places ∧ value = divideByTens (Float.ofNat significand) places) ∨
    significand = 0 ∧ value = 0.0 ∨
    ∃ places : Nat, exponent = places ∧ 0 < significand ∧ places ≤ maxPlaces ∧
      value = Float.ofNat significand * tenTo places ∧ value.isInf = false := by
  unfold scaled? at found
  simp only at found
  split at found
  · rename_i negative
    obtain ⟨places, placesEq⟩ := Int.eq_ofNat_of_zero_le (a := -exponent) (by omega)
    obtain rfl : exponent = -places := by omega
    rw [Int.natAbs_neg, Int.natAbs_natCast] at found
    exact .inl ⟨places, rfl, (Option.some.inj found).symm⟩
  · rename_i natural
    obtain ⟨places, rfl⟩ := Int.eq_ofNat_of_zero_le (not_lt.mp natural)
    rw [Int.natAbs_natCast] at found
    rcases Nat.eq_zero_or_pos significand with rfl | positive
    · exact .inr (.inl ⟨rfl, (Option.some.inj found).symm⟩)
    · rw [ofNat_beq_zero fits positive, if_neg Bool.false_ne_true] at found
      split at found
      · rename_i few
        split at found
        · cases found
        · rename_i finite
          obtain rfl := Option.some.inj found
          exact .inr (.inr ⟨places, rfl, positive, few, rfl, eq_false_of_ne_true finite⟩)
      · cases found

theorem exists_scaled_within (found : scaled? significand exponent = some value) :
    ∃ binary : Binary, binary.Canonical ∧ value = binary.toFloat .positive ∧
      Within 5 margin (significand * 10 ^ exponent) binary.value := by
  have slack : 0 ≤ margin := by
    have positive := tiny_pos
    rw [margin]
    positivity
  rcases scaled?_cases fits found with ⟨places, rfl, rfl⟩ | ⟨rfl, rfl⟩ |
    ⟨places, rfl, positive, few, rfl, finite⟩
  · obtain ⟨left, rounds, canonical, bound, same⟩ := exists_significand fits
    obtain ⟨quotient, quotientCanonical, near, quotientEq⟩ :=
      dividesWithin canonical bound (Nat.cast_nonneg _) rounds.within_natCast places
    refine ⟨quotient, quotientCanonical, by rw [same, quotientEq], ?_⟩
    rwa [zpow_neg, zpow_natCast, ← div_eq_mul_inv]
  · refine ⟨zero, zero_canonical, (toFloat_zero rfl).symm, ?_⟩
    rw [Nat.cast_zero, zero_mul, value_zero]
    exact within_zero le_rfl tiny_pos.le
  · obtain ⟨left, ten, product, leftRounds, -, tenRounds, rounds, same⟩ :=
      exists_multiplied fits positive few
    have one : (1 : ℚ) ≤ significand := by exact_mod_cast positive
    have tenOne : (1 : ℚ) ≤ 10 ^ places := one_le_pow₀ (by norm_num)
    have exact := leftRounds.within_natCast.mul (tenRounds.within_of_one_le tenOne)
      (by positivity) (by positivity)
    have productOne : 1 ≤ left.value * ten.value :=
      one_le_mul_of_one_le_of_one_le (leftRounds.one_le one) (tenRounds.one_le tenOne)
    have rounded := exact.trans (rounds.within_of_one_le productOne) le_rfl
    refine ⟨product, (isInf_toFloat_iff rounds.regular).mp (by rw [← same, finite]), same, ?_⟩
    rw [zpow_natCast]
    rw [zero_mul, zero_add] at rounded
    exact rounded.mono (by positivity) (by decide) slack

def Plain (significand : Nat) (exponent : Int) : Prop :=
  significand < 2 ^ 53 ∧ exponent.natAbs ≤ 22 ∨ exponent = 0

theorem exists_scaled_rounds (plain : Plain significand exponent)
    (found : scaled? significand exponent = some value) :
    ∃ binary : Binary, binary.Canonical ∧ value = binary.toFloat .positive ∧
      Rounds (significand * 10 ^ exponent) binary := by
  rcases scaled?_cases fits found with ⟨places, rfl, rfl⟩ | ⟨rfl, rfl⟩ |
    ⟨places, rfl, positive, few, rfl, finite⟩
  · obtain ⟨left, leftRounds, canonical, -, leftEq⟩ := exists_significand fits
    have small : places ≤ 22 := by
      rcases plain with ⟨-, few⟩ | none <;> omega
    obtain ⟨ten, quotient, tenRounds, rounds, quotientCanonical, same⟩ :=
      exists_divided canonical (small.trans (by decide))
    refine ⟨quotient, quotientCanonical, ?_, ?_⟩
    · rw [divideByTens_few _ (small.trans (by decide)), leftEq, same]
    · rw [tenRounds.value_eq_pow small] at rounds
      rcases plain with ⟨exact, -⟩ | none
      · rw [leftRounds.value_eq_natCast exact] at rounds
        rwa [zpow_neg, zpow_natCast, ← div_eq_mul_inv]
      · obtain rfl : places = 0 := by omega
        rw [pow_zero, div_one] at rounds
        simpa using leftRounds.again rounds
  · refine ⟨zero, zero_canonical, (toFloat_zero rfl).symm, ?_⟩
    rw [Nat.cast_zero, zero_mul]
    exact rounds_zero
  · obtain ⟨left, ten, product, leftRounds, -, tenRounds, rounds, same⟩ :=
      exists_multiplied fits positive few
    refine ⟨product, (isInf_toFloat_iff rounds.regular).mp (by rw [← same, finite]), same, ?_⟩
    have small : places ≤ 22 := by
      rcases plain with ⟨-, few⟩ | none <;> omega
    rw [tenRounds.value_eq_pow small] at rounds
    rcases plain with ⟨exact, -⟩ | none
    · rwa [leftRounds.value_eq_natCast exact] at rounds
    · obtain rfl : places = 0 := by omega
      rw [pow_zero, mul_one] at rounds
      simpa using leftRounds.again rounds

end Scaling

end Verdict.Json.Written
