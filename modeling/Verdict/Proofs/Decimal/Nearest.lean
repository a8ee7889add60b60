import Verdict.Proofs.Decimal.Rounding

/-! The double nearest to a decimal that denotes a double exactly is that double. Small decimals are
a quotient of two doubles and all others go through a quotient of natural numbers, so both paths
come down to `Binary.div_eq`. -/

namespace Verdict.Decimal

open Float.Model Float.Model.UnpackedFloat

theorem digits_length_pos (number : Nat) : 0 < (digits number).length :=
  List.length_pos_iff.mpr (digits_ne_nil number)

theorem lt_pow_digits_length (number : Nat) : number < 10 ^ (digits number).length := by
  fun_induction digits number with
  | case1 number small => simpa using small
  | case2 number large ih =>
    rw [List.length_append, List.length_singleton, Nat.pow_succ]
    omega

theorem pow_digits_length_le {number : Nat} (positive : 0 < number) :
    10 ^ ((digits number).length - 1) ≤ number := by
  fun_induction digits number with
  | case1 number small => exact positive
  | case2 number large ih =>
    have higher := ih (by omega)
    obtain ⟨length, lengthEq⟩ := Nat.exists_eq_add_one.mpr (digits_length_pos (number / 10))
    rw [lengthEq, Nat.add_sub_cancel] at higher
    rw [List.length_append, List.length_singleton, Nat.add_sub_cancel, lengthEq, Nat.pow_succ]
    omega

theorem two_pow_le_pow_ten (power : Nat) : 2 ^ (3 * power) ≤ 10 ^ power := by
  rw [Nat.pow_mul]
  exact Nat.pow_le_pow_left (by decide) power

theorem log2_ge_digits_length {number : Nat} (positive : 0 < number) :
    (digits number).length ≤ number.log2 + 1 := by
  have power : 2 ^ ((digits number).length - 1) ≤ number :=
    Nat.le_trans (Nat.pow_le_pow_left (by decide) _) (pow_digits_length_le positive)
  have := (Nat.le_log2 (Nat.ne_of_gt positive)).mpr power
  omega

namespace Binary

def powerOfTen (power : Nat) : Binary :=
  { ofNat (5 ^ power) with exponent := (ofNat (5 ^ power)).exponent + power }

theorem exactlyRepresentablePowersOfTen_eq :
    ∀ power : Fin Float.exactlyRepresentablePowersOfTen.size,
      Float.exactlyRepresentablePowersOfTen[power] = (powerOfTen power).toFloat .positive := by
  decide +kernel

theorem getElem_exactlyRepresentablePowersOfTen (power : Nat)
    (bound : power < Float.exactlyRepresentablePowersOfTen.size) :
    Float.exactlyRepresentablePowersOfTen[power] = (powerOfTen power).toFloat .positive :=
  exactlyRepresentablePowersOfTen_eq ⟨power, bound⟩

variable {binary : Binary} {significand places : Nat}

def Denotes (binary : Binary) (significand places : Nat) : Prop :=
  significand * 2 ^ (-binary.exponent).toNat =
    binary.significand * 2 ^ binary.exponent.toNat * 10 ^ places

theorem Denotes.significand_pos (denotes : binary.Denotes significand places)
    (positive : 0 < significand) : 0 < binary.significand := by
  unfold Denotes at denotes
  apply Nat.pos_of_ne_zero
  intro absent
  rw [absent, Nat.zero_mul, Nat.zero_mul] at denotes
  exact Nat.ne_of_gt (Nat.mul_pos positive (Nat.two_pow_pos _)) denotes

theorem Denotes.places_lt {bound : Nat} (denotes : binary.Denotes significand places)
    (positive : 0 < significand) (shift : (-binary.exponent).toNat ≤ 3 * bound) :
    places < (digits significand).length + bound := by
  have magnitude := denotes.significand_pos positive
  have total : 10 ^ places < 10 ^ ((digits significand).length + bound) :=
    calc
      10 ^ places ≤ binary.significand * 2 ^ binary.exponent.toNat * 10 ^ places :=
        Nat.le_mul_of_pos_left _ (Nat.mul_pos magnitude (Nat.two_pow_pos _))
      _ = significand * 2 ^ (-binary.exponent).toNat := denotes.symm
      _ ≤ significand * 2 ^ (3 * bound) :=
        Nat.mul_le_mul_left _ (Nat.pow_le_pow_right (by decide) shift)
      _ < 10 ^ (digits significand).length * 2 ^ (3 * bound) :=
        Nat.mul_lt_mul_of_pos_right (lt_pow_digits_length significand) (Nat.two_pow_pos _)
      _ ≤ 10 ^ (digits significand).length * 10 ^ bound :=
        Nat.mul_le_mul_left _ (two_pow_le_pow_ten bound)
      _ = 10 ^ ((digits significand).length + bound) := (pow_add _ _ _).symm
  exact (Nat.pow_lt_pow_iff_right (by decide)).mp total

theorem Denotes.length_le {bound : Nat} (denotes : binary.Denotes significand places)
    (canonical : binary.Canonical) (positive : 0 < significand)
    (shift : 53 + binary.exponent.toNat ≤ 3 * bound) :
    (digits significand).length ≤ places + bound + 1 := by
  have total : 10 ^ ((digits significand).length - 1) ≤ 10 ^ (bound + places) :=
    calc
      10 ^ ((digits significand).length - 1) ≤ significand := pow_digits_length_le positive
      _ ≤ significand * 2 ^ (-binary.exponent).toNat :=
        Nat.le_mul_of_pos_right _ (Nat.two_pow_pos _)
      _ = binary.significand * 2 ^ binary.exponent.toNat * 10 ^ places := denotes
      _ ≤ 2 ^ 53 * 2 ^ binary.exponent.toNat * 10 ^ places :=
        Nat.mul_le_mul_right _ (Nat.mul_le_mul_right _ (Nat.le_of_lt canonical.fits))
      _ = 2 ^ (53 + binary.exponent.toNat) * 10 ^ places := by rw [pow_add]
      _ ≤ 2 ^ (3 * bound) * 10 ^ places :=
        Nat.mul_le_mul_right _ (Nat.pow_le_pow_right (by decide) shift)
      _ ≤ 10 ^ bound * 10 ^ places := Nat.mul_le_mul_right _ (two_pow_le_pow_ten bound)
      _ = 10 ^ (bound + places) := (pow_add _ _ _).symm
  have := (Nat.pow_le_pow_iff_right (by decide)).mp total
  omega

theorem powerOfTen_canonical {power : Nat} (small : power ≤ 22) :
    (powerOfTen power).Canonical := by
  have fits : 5 ^ power < 2 ^ 53 :=
    Nat.lt_of_le_of_lt (Nat.pow_le_pow_right (by decide) small) (by decide)
  have odd := ofNat_canonical (Nat.pow_pos (by decide)) fits
  have length := log2_le_of_fits fits
  refine ⟨odd.fits, ?_, ?_, ?_⟩
  · simp only [powerOfTen, ofNat]
    omega
  · simp only [powerOfTen, ofNat]
    omega
  · rcases odd.normal with lowest | large
    · simp only [ofNat] at lowest
      omega
    · exact .inr large

theorem toFloat_div {numerator denominator : Binary} {raised lowered : Nat}
    (canonical : binary.Canonical) (positive : 0 < binary.significand)
    (numeratorCanonical : numerator.Canonical) (denominatorCanonical : denominator.Canonical)
    (numeratorPositive : 0 < numerator.significand)
    (denominatorPositive : 0 < denominator.significand)
    (product : numerator.significand * 2 ^ raised =
      binary.significand * denominator.significand * 2 ^ lowered)
    (balance : (raised : Int) - lowered =
      numerator.exponent - denominator.exponent - binary.exponent) :
    numerator.toFloat .positive / denominator.toFloat .positive = binary.toFloat .positive := by
  change Float.ofModel (.pack (UnpackedFloat.div Format.binary64
    (numerator.toFloat .positive).toModel.unpack
    (denominator.toFloat .positive).toModel.unpack)) = _
  rw [unpack_toFloat numeratorCanonical, unpack_toFloat denominatorCanonical,
    signed_of_pos numeratorPositive, signed_of_pos denominatorPositive,
    div_eq canonical positive numeratorPositive denominatorPositive product balance]
  rfl

theorem ofScientific_small (denotes : binary.Denotes significand places)
    (canonical : binary.Canonical) (positive : 0 < significand) (fits : significand < 2 ^ 53)
    (few : places ≤ 22) :
    Float.ofScientific significand true places = binary.toFloat .positive := by
  have odd : 0 < 5 ^ places := Nat.pow_pos (by decide)
  have oddFits : 5 ^ places < 2 ^ 53 :=
    Nat.lt_of_le_of_lt (Nat.pow_le_pow_right (by decide) few) (by decide)
  have length := log2_le_of_fits fits
  have oddLength := log2_le_of_fits oddFits
  unfold Float.ofScientific
  rw [dif_pos ⟨fits, few⟩, if_pos rfl]
  simp only [getElem_exactlyRepresentablePowersOfTen, toFloat_ofNat positive fits]
  have product : (ofNat significand).significand *
        2 ^ ((-binary.exponent).toNat + (52 - (5 ^ places).log2)) =
      binary.significand * (powerOfTen places).significand *
        2 ^ (binary.exponent.toNat + places + (52 - significand.log2)) := by
    have ten : 10 ^ places = 5 ^ places * 2 ^ places := Nat.mul_pow 5 2 places
    calc
      significand * 2 ^ (52 - significand.log2) *
            2 ^ ((-binary.exponent).toNat + (52 - (5 ^ places).log2)) =
          significand * 2 ^ (-binary.exponent).toNat * 2 ^ (52 - (5 ^ places).log2) *
            2 ^ (52 - significand.log2) := by
        rw [pow_add]
        ac_rfl
      _ = binary.significand * (5 ^ places * 2 ^ (52 - (5 ^ places).log2)) *
            2 ^ (binary.exponent.toNat + places + (52 - significand.log2)) := by
        rw [denotes, ten, pow_add, pow_add]
        ac_rfl
  exact toFloat_div canonical (denotes.significand_pos positive) (ofNat_canonical positive fits)
    (powerOfTen_canonical few) (Nat.mul_pos positive (Nat.two_pow_pos _))
    (Nat.mul_pos odd (Nat.two_pow_pos _)) product (by simp only [powerOfTen, ofNat]; omega)

theorem ofScientific_large (denotes : binary.Denotes significand places)
    (canonical : binary.Canonical) (positive : 0 < significand) (fractional : 0 < places)
    (large : ¬ (significand < 2 ^ 53 ∧ places ≤ 22))
    (bound : places ≤ 2048 + significand.log2) :
    Float.ofScientific significand true places = binary.toFloat .positive := by
  have negated : Int.negOfNat places = -(places : Int) := Int.negOfNat_eq
  have limit : (2 : Int) ^ Format.binary64.exponentBits = 2048 := rfl
  have notHuge : ¬ -(places : Int) > 2048 := by omega
  have notTiny : ¬ -(places : Int) < -(2048 + significand.log2) := by omega
  have notWhole : ¬ 0 ≤ -(places : Int) := by omega
  have power : 0 < 10 ^ places := Nat.pow_pos (by decide)
  have product : significand * 2 ^ (-binary.exponent).toNat =
      binary.significand * 10 ^ places * 2 ^ binary.exponent.toNat := by
    rw [denotes]
    ac_rfl
  unfold Float.ofScientific
  rw [dif_neg large, if_pos rfl]
  change Float.ofModel (.pack (UnpackedFloat.ofScientific Format.binary64 _ _)) = _
  unfold UnpackedFloat.ofScientific
  simp only [negated, limit, dif_neg (Nat.ne_of_gt positive), if_neg notHuge, if_neg notTiny,
    if_neg notWhole, Int.neg_neg, Int.toNat_natCast]
  rw [div_eq canonical (denotes.significand_pos positive) positive power product (by omega)]
  rfl

theorem Denotes.significand_eq_zero (denotes : binary.Denotes 0 places) :
    binary.significand = 0 := by
  have product : 0 < 2 ^ binary.exponent.toNat * 10 ^ places :=
    Nat.mul_pos (Nat.two_pow_pos _) (Nat.pow_pos (by decide))
  unfold Denotes at denotes
  rw [Nat.zero_mul, Nat.mul_assoc] at denotes
  exact (Nat.mul_eq_zero.mp denotes.symm).resolve_right (Nat.ne_of_gt product)

theorem toFloat_zero (absent : binary.significand = 0) : binary.toFloat .positive = 0.0 := by
  have zero : (0.0 : Float) = .ofModel (.pack (.zero .positive)) := by decide
  rw [toFloat, signed, dif_pos absent, zero]

/-- The double nearest to a decimal that denotes a double exactly. -/
theorem magnitude_eq (denotes : binary.Denotes significand places) (canonical : binary.Canonical)
    (fractional : 0 < places) :
    Numeral.magnitude significand (-(places : Int)) = binary.toFloat .positive := by
  rcases Nat.eq_zero_or_pos significand with rfl | positive
  · rw [toFloat_zero denotes.significand_eq_zero]
    rfl
  · have least := canonical.least
    have greatest := canonical.greatest
    have lower := denotes.places_lt positive (show _ ≤ 3 * 358 by omega)
    have upper := denotes.length_le canonical positive (show _ ≤ 3 * 342 by omega)
    have length := log2_ge_digits_length positive
    have notTiny : ¬ -(places : Int) + (digits significand).length < -Numeral.exponentBound := by
      unfold Numeral.exponentBound
      omega
    have notHuge : ¬ -(places : Int) + (digits significand).length > Numeral.exponentBound := by
      unfold Numeral.exponentBound
      omega
    have negative : -(places : Int) < 0 := by omega
    unfold Numeral.magnitude
    simp only [Nat.ne_of_gt positive, notTiny, notHuge, negative, decide_true, decide_false,
      Bool.or_false, Bool.false_eq_true, if_false, Int.natAbs_neg, Int.natAbs_natCast]
    by_cases small : significand < 2 ^ 53 ∧ places ≤ 22
    · exact ofScientific_small denotes canonical positive small.1 small.2
    · exact ofScientific_large denotes canonical positive fractional small (by omega)

end Binary

end Verdict.Decimal
