import Verdict.Proofs.Decimal.Nearest

/-! Numerals and whole numbers are never read as NaN, also where they overflow to infinity. So the
double that a literal denotes always stands in an order. -/

namespace Verdict.Decimal

open Float.Model Float.Model.UnpackedFloat

theorem unpack_packComponents_ne {field : BitVec 11} {fraction : BitVec 52} (sign : Sign)
    (number : field ≠ -1#11 ∨ fraction = 0#52) :
    UnpackedFloat.unpack Format.binary64 (packComponents Format.binary64 sign field fraction) ≠
      .notANumber := by
  unfold UnpackedFloat.unpack
  simp only [unpackExponent_packComponents, unpackMantissa_packComponents]
  split
  · rename_i top
    rw [if_pos (number.resolve_left (absurd top))]
    nofun
  · split
    · split <;> nofun
    · nofun

/-- Rounding to the fields of a double may reach infinity, but not NaN. -/
theorem unpack_pack_ne {unpacked : UnpackedFloat} (number : unpacked ≠ .notANumber) :
    UnpackedFloat.unpack Format.binary64 (UnpackedFloat.pack Format.binary64 unpacked) ≠
      .notANumber := by
  cases unpacked with
  | notANumber => exact absurd rfl number
  | infinity sign => exact unpack_packComponents_ne sign (.inr rfl)
  | zero sign => exact unpack_packComponents_ne sign (.inr rfl)
  | finite sign mantissa exponent positive =>
    unfold UnpackedFloat.pack
    simp only
    split
    · exact unpack_packComponents_ne sign (.inr rfl)
    · split
      · rename_i bounded _
        refine unpack_packComponents_ne sign (.inl fun top => ?_)
        have field := congrArg BitVec.toNat top
        rw [BitVec.toNat_ofNat] at field
        change _ % 2 ^ 11 = 2047 at field
        change ¬ 2 ^ 11 ≤ _ at bounded
        omega
      · exact unpack_packComponents_ne sign (.inl (by decide))

theorem roundWithAccuracy_ne (sign : Sign) (mantissa : Nat) (exponent : Int) (accuracy : Accuracy) :
    roundWithAccuracy Format.binary64 sign mantissa exponent accuracy ≠ .notANumber := by
  unfold roundWithAccuracy
  simp only
  split <;> nofun

theorem mul_ne {left right : UnpackedFloat} (leftFinite : left.isFinite = true)
    (rightFinite : right.isFinite = true) :
    UnpackedFloat.mul Format.binary64 left right ≠ .notANumber := by
  cases left <;> cases leftFinite <;> cases right <;> cases rightFinite
  case finite.refl.finite.refl => exact roundWithAccuracy_ne _ _ _ _
  all_goals nofun

theorem div_ne {left : UnpackedFloat} (finite : left.isFinite = true) (sign : Sign) (mantissa : Nat)
    (exponent : Int) (positive : 0 < mantissa) :
    UnpackedFloat.div Format.binary64 left (.finite sign mantissa exponent positive) ≠
      .notANumber := by
  cases left <;> cases finite
  case finite.refl => exact roundWithAccuracy_ne _ _ _ _
  all_goals nofun

theorem ofScientific_ne (significand : Nat) (exponent : Int) :
    UnpackedFloat.ofScientific Format.binary64 significand exponent ≠ .notANumber := by
  unfold UnpackedFloat.ofScientific
  split
  · nofun
  · split
    · nofun
    · split
      · nofun
      · split
        · exact mul_ne rfl rfl
        · exact div_ne rfl _ _ _ _

theorem isNaN_ofModel {unpacked : UnpackedFloat} (number : unpacked ≠ .notANumber) :
    (Float.ofModel (.pack unpacked)).isNaN = false := by
  rw [← Bool.not_eq_true]
  exact fun isNaN => unpack_pack_ne number (isNaN_iff.mp isNaN)

theorem isNaN_neg {value : Float} (number : value.isNaN = false) : (-value).isNaN = false := by
  apply isNaN_ofModel
  change value.toModel.unpack.isNaN = false at number
  generalize value.toModel.unpack = unpacked at number
  cases unpacked <;> cases number <;> nofun

theorem isFinite_unpack_ofNat {number : Nat} (fits : number < 2 ^ 53) :
    number.toUInt64.toFloat.toModel.unpack.isFinite = true := by
  rcases Nat.eq_zero_or_pos number with rfl | positive
  · decide
  · rw [Binary.toFloat_ofNat positive fits,
      Binary.unpack_toFloat (Binary.ofNat_canonical positive fits)]
    exact Binary.isFinite_signed _ _

theorem exists_unpack_powerOfTen {power : Nat} (small : power ≤ 22) :
    ∃ mantissa exponent positive, ((Binary.powerOfTen power).toFloat .positive).toModel.unpack =
      .finite .positive mantissa exponent positive := by
  have odd : 0 < 5 ^ power := Nat.pow_pos (by decide)
  rw [Binary.unpack_toFloat (Binary.powerOfTen_canonical small)]
  exact ⟨_, _, _, Binary.signed_of_pos (Nat.mul_pos odd (Nat.two_pow_pos _))⟩

theorem isNaN_ofScientific (significand : Nat) (fractional : Bool) (places : Nat) :
    (Float.ofScientific significand fractional places).isNaN = false := by
  unfold Float.ofScientific
  split
  · -- Both numbers are exact, and the power of ten is not zero.
    rename_i small
    obtain ⟨mantissa, exponent, positive, power⟩ := exists_unpack_powerOfTen small.2
    have finite := isFinite_unpack_ofNat small.1
    simp only [Binary.getElem_exactlyRepresentablePowersOfTen]
    split
    · apply isNaN_ofModel
      rw [power]
      exact div_ne finite _ _ _ _
    · apply isNaN_ofModel
      rw [power]
      exact mul_ne finite rfl
  · exact isNaN_ofModel (ofScientific_ne _ _)

theorem isNaN_magnitude (significand : Nat) (exponent : Int) :
    (Numeral.magnitude significand exponent).isNaN = false := by
  unfold Numeral.magnitude
  simp only
  split
  · decide
  · split
    · decide
    · exact isNaN_ofScientific _ _ _

theorem isNaN_float? {text : List Char} {value : Float} (read : float? text = some value) :
    value.isNaN = false := by
  obtain ⟨numeral, -, rfl⟩ := Option.map_eq_some_iff.mp read
  have number := isNaN_magnitude numeral.significand numeral.exponent
  unfold Numeral.toFloat
  simp only
  split
  · exact isNaN_neg number
  · exact number

theorem isNaN_ofInt (number : Int) : (Float.ofInt number).isNaN = false := by
  cases number with
  | ofNat number => exact isNaN_ofScientific number false 0
  | negSucc number => exact isNaN_neg (isNaN_ofScientific (number + 1) false 0)

end Verdict.Decimal
