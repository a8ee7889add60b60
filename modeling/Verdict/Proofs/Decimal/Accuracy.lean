import Verdict.Proofs.Decimal.Arithmetic

/-! How far several roundings in a row may go. Each of them changes a number by a factor at most,
and below the normal doubles by half the least one. -/

namespace Verdict.Decimal.Binary

/-- One rounding changes a number by at most this factor. -/
def growth : ℚ := 1 + 1 / (2 ^ 53 - 1)

theorem one_le_growth : 1 ≤ growth := by
  rw [growth]
  norm_num

theorem growth_pos : 0 < growth :=
  zero_lt_one.trans_le one_le_growth

theorem div_growth_le {slack : ℚ} (nonneg : 0 ≤ slack) (count : Nat) :
    slack / growth ^ count ≤ slack * growth ^ count := by
  have one : 1 ≤ growth ^ count := one_le_pow₀ one_le_growth
  exact (div_le_self nonneg one).trans (le_mul_of_one_le_right nonneg one)

structure Within (count : Nat) (slack number value : ℚ) : Prop where
  above : number / growth ^ count - slack ≤ value
  below : value ≤ number * growth ^ count + slack

variable {binary : Binary} {number value other reached slack extra : ℚ} {count more : Nat}

theorem within_of_near (near : |value - number| ≤ number / 2 ^ 53 + slack)
    (nonneg : 0 ≤ number) : Within 1 slack number value := by
  obtain ⟨low, high⟩ := abs_le.mp near
  have down : number / growth = number - number / 2 ^ 53 := by
    rw [growth]
    field_simp
    norm_num
  have up : number + number / 2 ^ 53 ≤ number * growth := by
    rw [growth]
    linarith
  constructor
  · rw [pow_one, down]
    linarith
  · rw [pow_one]
    linarith

theorem Rounds.within (rounds : Rounds number binary) (nonneg : 0 ≤ number) :
    Within 1 tiny number binary.value :=
  within_of_near (rounds.near.trans (max_le_add_of_nonneg (by positivity) tiny_pos.le)) nonneg

theorem Rounds.within_of_one_le (rounds : Rounds number binary) (one : 1 ≤ number) :
    Within 1 0 number binary.value := by
  have normal : tiny ≤ number / 2 ^ 53 := by
    have power : tiny ≤ 2 ^ (-53 : Int) := by
      rw [tiny]
      exact zpow_le_zpow_right₀ one_le_two (by decide)
    have unit : (2 : ℚ) ^ (-53 : Int) = 1 / 2 ^ 53 := by norm_num
    exact power.trans (unit.le.trans (by gcongr))
  have near := rounds.near
  rw [max_eq_left normal] at near
  exact within_of_near (by rwa [add_zero]) (zero_le_one.trans one)

theorem Rounds.within_natCast {natural : Nat} (rounds : Rounds natural binary) :
    Within 1 0 natural binary.value := by
  rcases Nat.eq_zero_or_pos natural with rfl | positive
  · rw [Nat.cast_zero, ← value_zero] at rounds
    have nothing := rounds.value_eq zero_canonical.regular
    rw [value_zero] at nothing
    constructor <;> simp [nothing]
  · exact rounds.within_of_one_le (by exact_mod_cast positive)

namespace Within

theorem mono {most : ℚ} {limit : Nat} (within : Within count slack number value)
    (nonneg : 0 ≤ number) (counted : count ≤ limit) (slackened : slack ≤ most) :
    Within limit most number value := by
  have power : growth ^ count ≤ growth ^ limit := pow_le_pow_right₀ one_le_growth counted
  have positive : 0 < growth ^ count := pow_pos growth_pos _
  refine ⟨le_trans ?_ within.above, within.below.trans ?_⟩ <;> gcongr

theorem trans (first : Within count slack number value) (second : Within more extra value reached)
    (nonneg : 0 ≤ slack) :
    Within (count + more) (slack * growth ^ more + extra) number reached := by
  have positive : 0 < growth ^ more := pow_pos growth_pos _
  constructor
  · have shrunk := div_growth_le nonneg more
    calc
      number / growth ^ (count + more) - (slack * growth ^ more + extra) ≤
          (number / growth ^ count - slack) / growth ^ more - extra := by
        rw [pow_add, ← div_div, sub_div]
        linarith
      _ ≤ value / growth ^ more - extra := by
        gcongr
        exact first.above
      _ ≤ reached := second.above
  · calc
      reached ≤ value * growth ^ more + extra := second.below
      _ ≤ (number * growth ^ count + slack) * growth ^ more + extra := by
        gcongr
        exact first.below
      _ = number * growth ^ (count + more) + (slack * growth ^ more + extra) := by
        rw [pow_add]
        ring

theorem mul (first : Within count 0 number value) (second : Within more 0 other reached)
    (nonneg : 0 ≤ number) (otherNonneg : 0 ≤ other) :
    Within (count + more) 0 (number * other) (value * reached) := by
  have low := first.above
  have otherLow := second.above
  have high := first.below
  have otherHigh := second.below
  rw [sub_zero] at low otherLow
  rw [add_zero] at high otherHigh
  have positive : 0 < growth ^ count := pow_pos growth_pos _
  have otherPositive : 0 < growth ^ more := pow_pos growth_pos _
  have valueNonneg : 0 ≤ value := le_trans (by positivity) low
  have reachedNonneg : 0 ≤ reached := le_trans (by positivity) otherLow
  constructor
  · calc
      number * other / growth ^ (count + more) - 0 =
          number / growth ^ count * (other / growth ^ more) := by
        rw [sub_zero, pow_add, mul_div_mul_comm]
      _ ≤ value * reached := by gcongr
  · calc
      value * reached ≤ number * growth ^ count * (other * growth ^ more) := by gcongr
      _ = number * other * growth ^ (count + more) + 0 := by
        rw [pow_add]
        ring

theorem div (first : Within count slack number value) (second : Within more 0 other reached)
    (slackNonneg : 0 ≤ slack) (nonneg : 0 ≤ value) (positive : 0 < other) :
    Within (count + more) (slack * growth ^ more / other) (number / other) (value / reached) := by
  have low := second.above
  have high := second.below
  rw [sub_zero] at low
  rw [add_zero] at high
  have power : 0 < growth ^ more := pow_pos growth_pos _
  have least : 0 < other / growth ^ more := by positivity
  have reachedPositive : 0 < reached := least.trans_le low
  constructor
  · have shrunk := div_growth_le slackNonneg more
    calc
      number / other / growth ^ (count + more) - slack * growth ^ more / other ≤
          number / other / growth ^ (count + more) - slack / growth ^ more / other := by gcongr
      _ = (number / growth ^ count - slack) / (other * growth ^ more) := by
        rw [pow_add]
        field_simp
      _ ≤ value / (other * growth ^ more) := by
        gcongr
        exact first.above
      _ ≤ value / reached := by gcongr
  · calc
      value / reached ≤ value / (other / growth ^ more) := by gcongr
      _ = value * growth ^ more / other := by rw [div_div_eq_mul_div]
      _ ≤ (number * growth ^ count + slack) * growth ^ more / other := by
        gcongr
        exact first.below
      _ = number / other * growth ^ (count + more) + slack * growth ^ more / other := by
        rw [pow_add]
        ring

theorem abs_sub_lt (within : Within count slack number value) (nonneg : 0 ≤ number)
    (few : count ≤ 6) (little : slack < 2 ^ (-1074 : Int)) :
    |value - number| < number / 2 ^ 50 + 2 ^ (-1074 : Int) := by
  obtain ⟨low, high⟩ := within.mono nonneg few (le_refl slack)
  have most : growth ^ 6 ≤ 1 + 1 / 2 ^ 50 := by
    rw [growth]
    norm_num
  have least : 1 - 1 / 2 ^ 50 ≤ 1 / growth ^ 6 := by
    rw [growth]
    norm_num
  have up := mul_le_mul_of_nonneg_left most nonneg
  have down := mul_le_mul_of_nonneg_left least nonneg
  rw [mul_one_div] at down
  rw [abs_lt]
  constructor <;> linarith

end Within

end Verdict.Decimal.Binary
