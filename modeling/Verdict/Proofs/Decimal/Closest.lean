import Verdict.Proofs.Decimal.Number

/-! Rounding goes to a closest magnitude. The bits that are shifted out leave behind on which side
of one half the rest lies, and that is all that rounding to a closest integer needs. -/

namespace Verdict.Decimal

open Float.Model Float.Model.UnpackedFloat

/-- A number cut to its integral part; the two bits tell where the rest lies. -/
def Truncates (extended : ExtendedMantissa) (number : ℚ) : Prop :=
  ∃ tail : ℚ, 0 ≤ tail ∧ tail < 1 / 2 ∧ (extended.stickyBit = true ↔ 0 < tail) ∧
    number = extended.mantissa + (if extended.roundBit then 1 / 2 else 0) + tail

namespace Truncates

variable {extended : ExtendedMantissa} {number : ℚ}

theorem exact (number : Nat) : Truncates (.ofMantissaAndAccuracy number .exact) number :=
  ⟨0, le_refl 0, by norm_num, by simp [ExtendedMantissa.ofMantissaAndAccuracy],
    by simp [ExtendedMantissa.ofMantissaAndAccuracy]⟩

theorem fraction (whole : Nat) {rest total : Nat} (proper : rest < total) :
    Truncates (.ofMantissaAndAccuracy whole (accuracyOfFraction rest total))
      (whole + rest / total) := by
  have positive : (0 : ℚ) < total := by exact_mod_cast Nat.zero_lt_of_lt proper
  have below : (rest : ℚ) < total := by exact_mod_cast proper
  unfold accuracyOfFraction
  split
  · rename_i nothing
    rw [nothing, Nat.cast_zero, zero_div, add_zero]
    exact exact whole
  · rename_i something
    have rested : (0 : ℚ) < rest / total :=
      div_pos (by exact_mod_cast Nat.pos_of_ne_zero something) positive
    cases order : compare (2 * rest) total with
    | lt =>
      have low : (2 * rest : ℚ) < total := by exact_mod_cast Nat.compare_eq_lt.mp order
      refine ⟨rest / total, rested.le, ?_, iff_of_true rfl rested, ?_⟩
      · rw [div_lt_div_iff₀ positive two_pos]
        linarith
      · simp [ExtendedMantissa.ofMantissaAndAccuracy]
    | eq =>
      have half : (2 * rest : ℚ) = total := by exact_mod_cast Nat.compare_eq_eq.mp order
      refine ⟨0, le_refl 0, by norm_num, by simp [ExtendedMantissa.ofMantissaAndAccuracy], ?_⟩
      have ratio : (rest / total : ℚ) = 1 / 2 := by
        rw [div_eq_div_iff positive.ne' two_ne_zero]
        linarith
      simp [ExtendedMantissa.ofMantissaAndAccuracy, ratio]
    | gt =>
      have high : (total : ℚ) < 2 * rest := by exact_mod_cast Nat.compare_eq_gt.mp order
      have above : (1 / 2 : ℚ) < rest / total := by
        rw [div_lt_div_iff₀ two_pos positive]
        linarith
      have one : (rest / total : ℚ) < 1 := (div_lt_one positive).mpr below
      refine ⟨rest / total - 1 / 2, by linarith, by linarith, iff_of_true rfl (by linarith), ?_⟩
      simp only [ExtendedMantissa.ofMantissaAndAccuracy, if_true]
      ring

theorem bounds (cut : Truncates extended number) :
    (extended.mantissa : ℚ) ≤ number ∧ number < extended.mantissa + 1 := by
  obtain ⟨tail, nonneg, small, -, rfl⟩ := cut
  split <;> constructor <;> linarith

theorem shiftRightOne (cut : Truncates extended number) :
    Truncates extended.shiftRightOne (number / 2) := by
  obtain ⟨tail, nonneg, small, sticky, rfl⟩ := cut
  obtain ⟨mantissa, roundBit, stickyBit⟩ := extended
  have halves : (mantissa : ℚ) = 2 * (mantissa / 2 : Nat) + (mantissa % 2 : Nat) := by
    exact_mod_cast (Nat.div_add_mod mantissa 2).symm
  refine ⟨((if roundBit then 1 / 2 else 0) + tail) / 2, ?_, ?_, ?_, ?_⟩
  · split <;> linarith
  · split <;> linarith
  · cases roundBit with
    | true => simpa [ExtendedMantissa.shiftRightOne] using by linarith
    | false => simpa [ExtendedMantissa.shiftRightOne] using sticky
  · generalize (if roundBit then 1 / 2 else 0 : ℚ) = half
    simp only [ExtendedMantissa.shiftRightOne, halves]
    rcases Nat.mod_two_eq_zero_or_one mantissa with even | odd
    · simp only [even, bne_self_eq_false, Bool.false_eq_true, if_false]
      ring
    · simp only [odd, bne_iff_ne, ne_eq, one_ne_zero, not_false_eq_true, if_true]
      ring

theorem shiftRight (cut : Truncates extended number) (shift : Nat) :
    Truncates (extended >>> shift) (number / 2 ^ shift) := by
  induction shift with
  | zero => simpa [HShiftRight.hShiftRight, Nat.repeat] using cut
  | succ shift ih =>
    rw [pow_succ, ← div_div]
    exact ih.shiftRightOne

theorem abs_sub_le (cut : Truncates extended number) :
    |(extended.roundedMantissa : ℚ) - number| ≤ 1 / 2 := by
  obtain ⟨tail, nonneg, small, sticky, rfl⟩ := cut
  obtain ⟨mantissa, roundBit, stickyBit⟩ := extended
  rw [abs_le]
  cases roundBit with
  | false =>
    have down : (ExtendedMantissa.mk mantissa false stickyBit).roundedMantissa = mantissa := by
      cases stickyBit <;> rfl
    rw [down]
    simp only [Bool.false_eq_true, if_false]
    constructor <;> linarith
  | true =>
    cases stickyBit with
    | false =>
      -- A tie goes to the even one of the two.
      have nothing : tail = 0 := le_antisymm (not_lt.mp (mt sticky.mpr Bool.false_ne_true)) nonneg
      have even : (ExtendedMantissa.mk mantissa true false).roundedMantissa =
          mantissa + mantissa % 2 := rfl
      have bit : ((mantissa % 2 : Nat) : ℚ) ≤ 1 := by
        exact_mod_cast Nat.le_of_lt_succ (Nat.mod_lt mantissa two_pos)
      have natural : (0 : ℚ) ≤ (mantissa % 2 : Nat) := Nat.cast_nonneg _
      rw [even, nothing, Nat.cast_add]
      simp only [if_true]
      constructor <;> linarith
    | true =>
      have up : (ExtendedMantissa.mk mantissa true true).roundedMantissa = mantissa + 1 := rfl
      rw [up, Nat.cast_add, Nat.cast_one]
      simp only [if_true]
      constructor <;> linarith

end Truncates

theorem abs_sub_le_of_half {number : ℚ} (rounded other : Int) (near : |rounded - number| ≤ 1 / 2) :
    |rounded - number| ≤ |other - number| := by
  by_cases same : rounded = other
  · rw [same]
  · have apart : (1 : ℚ) ≤ |(rounded : ℚ) - other| := by
      exact_mod_cast Int.one_le_abs (sub_ne_zero.mpr same)
    have triangle := abs_sub_le (rounded : ℚ) number other
    rw [abs_sub_comm number] at triangle
    linarith

namespace Binary

def value (binary : Binary) : ℚ :=
  binary.significand * 2 ^ binary.exponent

theorem value_nonneg (binary : Binary) : 0 ≤ binary.value := by
  rw [value]
  positivity

@[irreducible]
def tiny : ℚ := 2 ^ (-1075 : Int)

theorem tiny_pos : 0 < tiny := by
  rw [tiny]
  positivity

theorem two_mul_tiny : 2 * tiny = 2 ^ (-1074 : Int) := by
  rw [tiny, show (-1074 : Int) = -1075 + 1 from rfl, zpow_add_one₀ two_ne_zero]
  ring

/-- A magnitude that is closest to a number among those that a double of any size could hold. -/
structure Rounds (number : ℚ) (binary : Binary) : Prop where
  regular : binary.Regular
  near : |binary.value - number| ≤ max (number / 2 ^ 53) tiny
  closest : ∀ other : Binary, other.Regular → |binary.value - number| ≤ |other.value - number|

theorem exists_carried {significand : Nat} {exponent : Int} (bound : significand ≤ 2 ^ 53)
    (least : -1074 ≤ exponent) (normal : exponent = -1074 ∨ 2 ^ 52 ≤ significand) :
    ∃ binary : Binary, binary.Regular ∧ binary.value = significand * 2 ^ exponent ∧
      shiftToTargetExponent Format.binary64 significand exponent .exact =
        (⟨binary.significand, false, false⟩, binary.exponent) := by
  rcases Nat.lt_or_eq_of_le bound with fits | rfl
  · have regular : Regular ⟨significand, exponent⟩ := ⟨fits, least, normal⟩
    refine ⟨_, regular, rfl, ?_⟩
    rcases Nat.eq_zero_or_pos significand with rfl | positive
    · obtain rfl : exponent = -1074 := by omega
      rfl
    · have kept := shiftToTargetExponent_eq regular positive 0
      rwa [Nat.pow_zero, Nat.mul_one, Int.natCast_zero, Int.sub_zero] at kept
  · have regular : Regular ⟨2 ^ 52, exponent + 1⟩ :=
      ⟨Nat.pow_lt_pow_succ (by decide), Int.le_add_one least, .inr (Nat.le_refl _)⟩
    refine ⟨_, regular, ?_, ?_⟩
    · rw [value, zpow_add_one₀ two_ne_zero]
      push_cast
      ring
    · have kept := shiftToTargetExponent_eq regular (Nat.two_pow_pos 52) 1
      simpa using kept

section Grid

variable {binary : Binary} {unit : Int}

theorem exists_multiple (coarse : unit ≤ binary.exponent) :
    ∃ whole : Int, binary.value = whole * 2 ^ unit := by
  obtain ⟨shift, shiftEq⟩ := Int.le.dest coarse
  refine ⟨binary.significand * 2 ^ shift, ?_⟩
  rw [value, ← shiftEq, zpow_add₀ two_ne_zero, zpow_natCast]
  push_cast
  ring

theorem Regular.value_le (regular : binary.Regular) (fine : binary.exponent < unit) :
    binary.value ≤ 2 ^ 52 * 2 ^ unit := by
  have bound : (binary.significand : ℚ) ≤ 2 ^ 53 := by exact_mod_cast regular.fits.le
  calc
    binary.value ≤ 2 ^ 53 * 2 ^ (unit - 1) := by
      rw [value]
      gcongr
      · exact one_le_two
      · omega
    _ = 2 ^ 52 * 2 ^ unit := by
      rw [zpow_sub_one₀ two_ne_zero]
      ring

/-- Above a normal magnitude there is nothing before the next multiple of its unit. -/
theorem Regular.next_le {mantissa : Nat} (regular : binary.Regular) (large : 2 ^ 52 ≤ mantissa)
    (above : mantissa * 2 ^ unit < binary.value) : (mantissa + 1) * 2 ^ unit ≤ binary.value := by
  have positive : (0 : ℚ) < 2 ^ unit := by positivity
  rcases le_or_gt unit binary.exponent with coarse | fine
  · obtain ⟨whole, multiple⟩ := exists_multiple coarse
    rw [multiple] at above ⊢
    have greater : (mantissa : Int) < whole := by
      exact_mod_cast lt_of_mul_lt_mul_right above positive.le
    refine mul_le_mul_of_nonneg_right ?_ positive.le
    exact_mod_cast greater
  · have below := regular.value_le fine
    have normal : (2 ^ 52 : ℚ) ≤ mantissa := by exact_mod_cast large
    have reached := mul_le_mul_of_nonneg_right normal positive.le
    exact absurd above (not_lt.mpr (below.trans reached))

end Grid

section Scaled

variable {rounded : Nat} {scaled : ℚ} {target : Int}
variable (half : |(rounded : ℚ) - scaled| ≤ 1 / 2)
variable (normal : target = -1074 ∨ 2 ^ 52 ≤ scaled)
include half normal

theorem half_unit_le :
    |(rounded : ℚ) - scaled| * 2 ^ target ≤
      max (scaled * 2 ^ target / 2 ^ 53) tiny := by
  have unit : (0 : ℚ) < 2 ^ target := by positivity
  have bound : |(rounded : ℚ) - scaled| * 2 ^ target ≤ 1 / 2 * 2 ^ target :=
    mul_le_mul_of_nonneg_right half unit.le
  rcases normal with rfl | large
  · refine le_max_of_le_right (bound.trans_eq ?_)
    rw [← two_mul_tiny]
    ring
  · refine le_max_of_le_left (bound.trans ?_)
    rw [mul_div_right_comm]
    refine mul_le_mul_of_nonneg_right ?_ unit.le
    linarith

theorem closest_of_half (other : Binary) (regular : other.Regular) :
    |(rounded : ℚ) - scaled| * 2 ^ target ≤ |other.value - scaled * 2 ^ target| := by
  have unit : (0 : ℚ) < 2 ^ target := by positivity
  rcases le_or_gt target other.exponent with coarse | fine
  · obtain ⟨whole, multiple⟩ := exists_multiple coarse
    rw [multiple, ← sub_mul, abs_mul, abs_of_pos unit]
    refine mul_le_mul_of_nonneg_right ?_ unit.le
    exact abs_sub_le_of_half rounded whole half
  · have large : 2 ^ 52 ≤ scaled := normal.resolve_left (by have := regular.least; omega)
    have below := regular.value_le fine
    have power : ((2 ^ 52 : Int) : ℚ) = 2 ^ 52 := by norm_num
    have nearer := abs_sub_le_of_half rounded (2 ^ 52) half
    rw [power, abs_sub_comm (2 ^ 52 : ℚ), abs_of_nonneg (sub_nonneg.mpr large)] at nearer
    calc
      |(rounded : ℚ) - scaled| * 2 ^ target ≤ (scaled - 2 ^ 52) * 2 ^ target :=
        mul_le_mul_of_nonneg_right nearer unit.le
      _ ≤ scaled * 2 ^ target - other.value := by linarith
      _ ≤ |other.value - scaled * 2 ^ target| := by
        rw [abs_sub_comm]
        exact le_abs_self _

end Scaled

theorem mantissa_ofMantissaAndAccuracy (significand : Nat) (accuracy : Accuracy) :
    (ExtendedMantissa.ofMantissaAndAccuracy significand accuracy).mantissa = significand := by
  cases accuracy with
  | exact => rfl
  | inexact order => cases order <;> rfl

section Rounding

variable {significand : Nat} {exponent : Int} {accuracy : Accuracy} {number : ℚ}
variable (cut : Truncates (.ofMantissaAndAccuracy significand accuracy) number)
variable (long : 2 ^ 52 ≤ significand ∨ exponent ≤ -1074)
include cut long

theorem exists_shifted :
    ∃ (extended : ExtendedMantissa) (target : Int) (scaled : ℚ),
      shiftToTargetExponent Format.binary64 significand exponent accuracy = (extended, target) ∧
      Truncates extended scaled ∧ scaled * 2 ^ target = number * 2 ^ exponent ∧
      -1074 ≤ target ∧ scaled < 2 ^ 53 ∧ (target = -1074 ∨ 2 ^ 52 ≤ scaled) := by
  obtain ⟨low, high⟩ := cut.bounds
  rw [mantissa_ofMantissaAndAccuracy] at low high
  have room : 2 ^ 52 ≤ significand → 52 ≤ significand.log2 := fun large =>
    (Nat.le_log2 (Nat.ne_of_gt (Nat.lt_of_lt_of_le (Nat.two_pow_pos 52) large))).mpr large
  have targetEq : Format.binary64.targetExponent (totalExponent significand exponent) =
      max (significand.log2 + 1 + exponent - 53) (-1074) := rfl
  obtain ⟨shift, shiftEq⟩ := Int.eq_ofNat_of_zero_le
    (a := max (significand.log2 + 1 + exponent - 53) (-1074) - exponent) (by omega)
  have power : (0 : ℚ) < 2 ^ shift := by positivity
  refine ⟨_, exponent + shift, number / 2 ^ shift, ?_, cut.shiftRight shift, ?_, by omega, ?_, ?_⟩
  · unfold shiftToTargetExponent shiftToExponent
    simp only [targetEq, shiftEq, Int.toNat_natCast]
  · rw [zpow_add₀ two_ne_zero, zpow_natCast]
    field_simp
  · rw [div_lt_iff₀ power, ← pow_add]
    calc
      number < significand + 1 := high
      _ ≤ 2 ^ (significand.log2 + 1) := by exact_mod_cast Nat.lt_log2_self
      _ ≤ 2 ^ (53 + shift) := pow_le_pow_right₀ one_le_two (by omega)
  · by_cases bottom : exponent + shift = -1074
    · exact .inl bottom
    · have present : significand ≠ 0 := by
        rintro rfl
        simp only [Nat.log2_zero] at *
        omega
      right
      rw [le_div_iff₀ power, ← pow_add]
      calc
        (2 : ℚ) ^ (52 + shift) ≤ 2 ^ significand.log2 := pow_le_pow_right₀ one_le_two (by omega)
        _ ≤ significand := by exact_mod_cast Nat.log2_self_le present
        _ ≤ number := low

/-- A significand that is long enough, or a number that is small enough, is rounded to a closest
magnitude. -/
theorem exists_rounded (sign : Sign) :
    ∃ binary : Binary, Rounds (number * 2 ^ exponent) binary ∧
      roundWithAccuracy Format.binary64 sign significand exponent accuracy =
        binary.signed sign := by
  obtain ⟨extended, target, scaled, first, shifted, same, least, below, normal⟩ :=
    exists_shifted cut long
  have unit : (0 : ℚ) < 2 ^ target := by positivity
  have half := shifted.abs_sub_le
  obtain ⟨fromBelow, fromAbove⟩ := abs_le.mp half
  have bound : extended.roundedMantissa ≤ 2 ^ 53 := by
    have above : (extended.roundedMantissa : ℚ) < (2 ^ 53 + 1 : Nat) := by
      push_cast
      linarith
    exact Nat.le_of_lt_succ (by exact_mod_cast above)
  have kept : target = -1074 ∨ 2 ^ 52 ≤ extended.roundedMantissa := normal.imp_right fun large => by
    have above : ((2 ^ 52 - 1 : Nat) : ℚ) < extended.roundedMantissa := by
      push_cast
      linarith
    have : 2 ^ 52 - 1 < extended.roundedMantissa := by exact_mod_cast above
    omega
  obtain ⟨binary, regular, valueEq, second⟩ := exists_carried bound least kept
  have distance : |binary.value - number * 2 ^ exponent| =
      |(extended.roundedMantissa : ℚ) - scaled| * 2 ^ target := by
    rw [valueEq, ← same, ← sub_mul, abs_mul, abs_of_pos unit]
  refine ⟨binary, ⟨regular, ?_, fun other otherRegular => ?_⟩, ?_⟩
  · rw [distance, ← same]
    exact half_unit_le half normal
  · rw [distance, ← same]
    exact closest_of_half half normal other otherRegular
  · unfold roundWithAccuracy
    rw [first]
    simp only
    rw [second]
    rfl

end Rounding

variable {binary other : Binary} {number : ℚ}

theorem Rounds.le_of_le (rounds : Rounds number binary) (regular : other.Regular)
    (bound : number ≤ other.value) : binary.value ≤ other.value := by
  have closer := rounds.closest other regular
  rw [abs_of_nonneg (sub_nonneg.mpr bound)] at closer
  have above := le_abs_self (binary.value - number)
  linarith

theorem Rounds.ge_of_ge (rounds : Rounds number binary) (regular : other.Regular)
    (bound : other.value ≤ number) : other.value ≤ binary.value := by
  have closer := rounds.closest other regular
  rw [abs_sub_comm other.value, abs_of_nonneg (sub_nonneg.mpr bound)] at closer
  have below := neg_abs_le (binary.value - number)
  linarith

/-- What lies below the middle of two neighbours is not rounded up. -/
theorem Rounds.le_of_lt_middle (rounds : Rounds number binary) (regular : other.Regular)
    (large : 2 ^ 52 ≤ other.significand)
    (below : number < (other.significand + 1 / 2) * 2 ^ other.exponent) :
    binary.value ≤ other.value := by
  rcases le_or_gt number other.value with held | above
  · exact rounds.le_of_le regular held
  · by_contra higher
    have next := rounds.regular.next_le large (not_le.mp higher)
    have closer := rounds.closest other regular
    rw [abs_sub_comm other.value, abs_of_pos (sub_pos.mpr above)] at closer
    have distance := le_abs_self (binary.value - number)
    have otherEq : other.value = other.significand * 2 ^ other.exponent := rfl
    linarith

theorem Rounds.value_eq (rounds : Rounds other.value binary) (regular : other.Regular) :
    binary.value = other.value :=
  le_antisymm (rounds.le_of_le regular (le_refl _)) (rounds.ge_of_ge regular (le_refl _))

theorem Rounds.again (first : Rounds number other) (second : Rounds other.value binary) :
    Rounds number binary := by
  have same := second.value_eq first.regular
  refine ⟨second.regular, ?_, ?_⟩
  · rw [same]
    exact first.near
  · rw [same]
    exact first.closest

theorem Regular.canonical (regular : binary.Regular) (below : binary.value < 2 ^ (1024 : Int)) :
    binary.Canonical := by
  refine ⟨regular.fits, regular.least, ?_, regular.normal⟩
  by_contra great
  have large : 2 ^ 52 ≤ binary.significand :=
    regular.normal.resolve_left (by omega)
  refine absurd below (not_lt.mpr ?_)
  calc
    (2 : ℚ) ^ (1024 : Int) ≤ 2 ^ (52 + binary.exponent) :=
      zpow_le_zpow_right₀ one_le_two (by omega)
    _ = 2 ^ 52 * 2 ^ binary.exponent := by
      rw [zpow_add₀ two_ne_zero]
      norm_num
    _ ≤ binary.significand * 2 ^ binary.exponent := by
      gcongr
      exact_mod_cast large

theorem Canonical.value_lt (canonical : binary.Canonical) :
    binary.value < 2 ^ (1024 : Int) := by
  have fits : (binary.significand : ℚ) < 2 ^ 53 := by exact_mod_cast canonical.fits
  have greatest := canonical.greatest
  calc
    binary.value < 2 ^ 53 * 2 ^ binary.exponent := by
      rw [value]
      gcongr
    _ = 2 ^ (53 + binary.exponent) := by
      rw [zpow_add₀ two_ne_zero]
      norm_num
    _ ≤ 2 ^ (1024 : Int) := zpow_le_zpow_right₀ one_le_two (by omega)

theorem Regular.large (regular : binary.Regular) (one : 1 ≤ binary.value) :
    2 ^ 52 ≤ binary.significand := by
  refine regular.normal.resolve_left fun lowest => absurd one (not_le.mpr ?_)
  have fits : (binary.significand : ℚ) < 2 ^ 53 := by exact_mod_cast regular.fits
  calc
    binary.value < 2 ^ 53 * 2 ^ (-1074 : Int) := by
      rw [value, lowest]
      gcongr
    _ = 2 ^ (-1021 : Int) := by
      rw [show (-1021 : Int) = 53 + -1074 from rfl, zpow_add₀ two_ne_zero]
      norm_num
    _ ≤ 1 := zpow_le_one_of_nonpos₀ one_le_two (by decide)

theorem isInf_toFloat_iff (regular : binary.Regular) :
    (binary.toFloat .positive).isInf = false ↔ binary.Canonical := by
  constructor
  · intro finite
    by_contra unheld
    have great : 971 < binary.exponent := by
      by_contra held
      exact unheld ⟨regular.fits, regular.least, not_lt.mp held, regular.normal⟩
    have positive : 0 < binary.significand :=
      Nat.lt_of_lt_of_le (Nat.two_pow_pos 52) (regular.normal.resolve_left (by omega))
    have top : 2 ^ 11 ≤ (binary.exponent + 1023 + 52).toNat + 1 := by omega
    have infinite : UnpackedFloat.pack Format.binary64 (binary.signed .positive) =
        packComponents Format.binary64 .positive (-1#11) 0#52 := by
      rw [signed_of_pos positive]
      unfold UnpackedFloat.pack
      exact if_pos top
    have field : (binary.toFloat .positive).isInf = true := by
      change (UnpackedFloat.unpack Format.binary64
        (UnpackedFloat.pack Format.binary64 (binary.signed .positive))).isInf = true
      rw [infinite]
      rfl
    rw [field] at finite
    cases finite
  · intro canonical
    change (binary.toFloat .positive).toModel.unpack.isInf = false
    rw [unpack_toFloat canonical, signed]
    split <;> rfl

end Binary

end Verdict.Decimal
