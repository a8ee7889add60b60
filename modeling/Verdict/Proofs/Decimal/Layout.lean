import Mathlib
import Verdict.Decimal.Positional

/-! The bits of a finite double. A finite double is its sign and the magnitude that
`Binary.ofFloat` reads from its fields, and `Binary.toFloat` puts the two together again. -/

namespace Verdict.Decimal

open Float.Model Float.Model.UnpackedFloat

namespace Layout

variable {sign : Sign} {field : BitVec 11} {fraction : BitVec 52}
variable {significand : Nat} {exponent : Int}

theorem toNat_packComponents (sign : Sign) (field : BitVec 11) (fraction : BitVec 52) :
    (packComponents Format.binary64 sign field fraction).toNat =
      sign.toBitVec.toNat * 2 ^ 63 + field.toNat * 2 ^ 52 + fraction.toNat := by
  unfold packComponents
  rw [BitVec.toNat_append, ← Nat.shiftLeft_add_eq_or_of_lt fraction.isLt, BitVec.toNat_append,
    ← Nat.shiftLeft_add_eq_or_of_lt field.isLt]
  simp only [Nat.shiftLeft_eq]
  omega

theorem exists_packComponents (bits : BitVec 64) :
    ∃ (sign : Sign) (field : BitVec 11) (fraction : BitVec 52),
      bits = packComponents Format.binary64 sign field fraction := by
  have parts := @packComponents_unpackSign_unpackExponent_unpackMantissa Format.binary64 bits
  exact ⟨_, _, _, parts.symm⟩

theorem unpack_normal (above : 0 < field.toNat) (below : field.toNat < 2047) :
    UnpackedFloat.unpack Format.binary64 (packComponents Format.binary64 sign field fraction) =
      .finite sign (2 ^ 52 + fraction.toNat) (field.toNat - 1075) (by omega) := by
  have notTop : field ≠ -1#11 := by
    rintro rfl
    contradiction
  have notBottom : field ≠ 0#11 := by
    rintro rfl
    contradiction
  have implicit : (1#1 ++ fraction).toNat = 2 ^ 52 + fraction.toNat := by
    rw [BitVec.toNat_append, ← Nat.shiftLeft_add_eq_or_of_lt fraction.isLt]
    rfl
  unfold UnpackedFloat.unpack
  simp only [unpackExponent_packComponents, unpackMantissa_packComponents,
    unpackSign_packComponents, Sign.ofBitVec_toBitVec, notTop, notBottom, if_false, implicit]
  rfl

theorem unpack_subnormal (positive : 0 < fraction.toNat) :
    UnpackedFloat.unpack Format.binary64 (packComponents Format.binary64 sign 0#11 fraction) =
      .finite sign fraction.toNat (-1074) positive := by
  have notZero : fraction ≠ 0#52 := by
    rintro rfl
    contradiction
  unfold UnpackedFloat.unpack
  simp only [unpackExponent_packComponents, unpackMantissa_packComponents,
    unpackSign_packComponents, Sign.ofBitVec_toBitVec, notZero, dite_false]
  rfl

theorem unpack_zero (sign : Sign) :
    UnpackedFloat.unpack Format.binary64 (packComponents Format.binary64 sign 0#11 0#52) =
      .zero sign := by
  cases sign <;> rfl

theorem unpack_top (sign : Sign) (fraction : BitVec 52) :
    (UnpackedFloat.unpack Format.binary64
      (packComponents Format.binary64 sign (-1#11) fraction)).isFinite = false := by
  unfold UnpackedFloat.unpack
  simp only [unpackExponent_packComponents, unpackMantissa_packComponents, if_true]
  split <;> rfl

theorem log2_of_normal (large : 2 ^ 52 ≤ significand) (fits : significand < 2 ^ 53) :
    significand.log2 = 52 :=
  (Nat.log2_eq_iff (by omega)).mpr ⟨large, fits⟩

theorem log2_of_subnormal (positive : 0 < significand) (small : significand < 2 ^ 52) :
    significand.log2 < 52 :=
  (Nat.log2_lt (by omega)).mpr small

theorem pack_normal (positive : 0 < significand) (large : 2 ^ 52 ≤ significand)
    (fits : significand < 2 ^ 53) (greatest : exponent ≤ 971) :
    UnpackedFloat.pack Format.binary64 (.finite sign significand exponent positive) =
      packComponents Format.binary64 sign (BitVec.ofNat 11 (exponent + 1075).toNat)
        (BitVec.ofNat 52 significand) := by
  have inRange : ¬ 2 ^ 11 ≤ (exponent + 1023 + 52).toNat + 1 := by omega
  have biased : exponent + 1075 = exponent + 1023 + 52 := by omega
  unfold UnpackedFloat.pack
  simp only [log2_of_normal large fits, biased]
  exact if_neg inRange

theorem pack_subnormal (positive : 0 < significand) (small : significand < 2 ^ 52) :
    UnpackedFloat.pack Format.binary64 (.finite sign significand (-1074) positive) =
      packComponents Format.binary64 sign 0#11 (BitVec.ofNat 52 significand) := by
  have notNormal : ¬ significand.log2 + 1 = 53 := by
    have bound := log2_of_subnormal positive small
    omega
  unfold UnpackedFloat.pack
  exact if_neg notNormal

end Layout

namespace Binary

variable {binary : Binary} {value : Float} {sign : Sign}

/-- A magnitude in the form that a double keeps it in; zero has the least exponent. -/
structure Canonical (binary : Binary) : Prop where
  fits : binary.significand < 2 ^ 53
  least : -1074 ≤ binary.exponent
  greatest : binary.exponent ≤ 971
  normal : binary.exponent = -1074 ∨ 2 ^ 52 ≤ binary.significand

/-- The same without a greatest exponent. -/
structure Regular (binary : Binary) : Prop where
  fits : binary.significand < 2 ^ 53
  least : -1074 ≤ binary.exponent
  normal : binary.exponent = -1074 ∨ 2 ^ 52 ≤ binary.significand

theorem Canonical.regular (canonical : binary.Canonical) : binary.Regular :=
  ⟨canonical.fits, canonical.least, canonical.normal⟩

def signed (sign : Sign) (binary : Binary) : UnpackedFloat :=
  if absent : binary.significand = 0 then
    .zero sign
  else
    .finite sign binary.significand binary.exponent (Nat.pos_of_ne_zero absent)

def toFloat (sign : Sign) (binary : Binary) : Float :=
  .ofModel (.pack (binary.signed sign))

theorem signed_of_pos (positive : 0 < binary.significand) :
    binary.signed sign = .finite sign binary.significand binary.exponent positive :=
  dif_neg (Nat.ne_of_gt positive)

theorem isFinite_signed (sign : Sign) (binary : Binary) :
    (binary.signed sign).isFinite = true := by
  unfold signed
  split <;> rfl

theorem unpack_pack (canonical : binary.Canonical) :
    UnpackedFloat.unpack Format.binary64 (UnpackedFloat.pack Format.binary64 (binary.signed sign)) =
      binary.signed sign := by
  obtain ⟨significand, exponent⟩ := binary
  obtain ⟨fits, least, greatest, normal⟩ := canonical
  simp only at fits least greatest normal
  rcases Nat.eq_zero_or_pos significand with rfl | positive
  · exact Layout.unpack_zero sign
  · rw [signed_of_pos positive]
    by_cases large : 2 ^ 52 ≤ significand
    · have field : (BitVec.ofNat 11 (exponent + 1075).toNat).toNat = (exponent + 1075).toNat :=
        Nat.mod_eq_of_lt (by omega)
      rw [Layout.pack_normal positive large fits greatest,
        Layout.unpack_normal (by omega) (by omega)]
      congr 1
      · rw [BitVec.toNat_ofNat]
        simp only
        omega
      · simp only
        omega
    · obtain rfl : exponent = -1074 := by omega
      have fraction : (BitVec.ofNat 52 significand).toNat = significand :=
        Nat.mod_eq_of_lt (by omega)
      rw [Layout.pack_subnormal positive (by omega), Layout.unpack_subnormal (by omega)]
      congr 1

theorem unpack_toFloat (canonical : binary.Canonical) :
    (binary.toFloat sign).toModel.unpack = binary.signed sign :=
  unpack_pack canonical

theorem toFloat_of_unpack (unpacked : value.toModel.unpack = binary.signed sign) :
    binary.toFloat sign = value := by
  obtain ⟨⟨bits, valid⟩⟩ := value
  rw [toFloat, ← unpacked]
  change Float.ofModel (Float.Model.mk _ _) = _
  congr 2
  exact congrArg UInt64.ofBitVec (pack_unpack_of_valid valid)

theorem abs_toFloat (canonical : binary.Canonical) :
    (binary.toFloat sign).abs = binary.toFloat .positive := by
  change Float.ofModel (.pack (UnpackedFloat.abs (binary.toFloat sign).toModel.unpack)) = _
  rw [unpack_toFloat canonical]
  unfold toFloat signed
  split <;> rfl

theorem neg_toFloat (canonical : binary.Canonical) :
    -(binary.toFloat .positive) = binary.toFloat .negative := by
  change Float.ofModel (.pack (UnpackedFloat.neg (binary.toFloat _).toModel.unpack)) = _
  rw [unpack_toFloat canonical]
  unfold toFloat signed
  split <;> rfl

section Fields

variable {field : BitVec 11} {fraction : BitVec 52}
variable (layout : value.toBits.toBitVec = packComponents Format.binary64 sign field fraction)
include layout

theorem toNat_toBits :
    value.toBits.toNat =
      sign.toBitVec.toNat * 2 ^ 63 + field.toNat * 2 ^ 52 + fraction.toNat := by
  rw [← Layout.toNat_packComponents, ← layout]
  rfl

theorem signBit_eq : (value.toBits >>> 63 == 1) = (sign == .negative) := by
  have fieldBound := field.isLt
  have fractionBound := fraction.isLt
  have shifted : (value.toBits >>> 63).toNat = sign.toBitVec.toNat := by
    rw [UInt64.toNat_shiftRight, Nat.shiftRight_eq_div_pow]
    change value.toBits.toNat / 2 ^ 63 = _
    rw [toNat_toBits layout]
    omega
  cases sign with
  | negative =>
    have set : value.toBits >>> 63 = 1 := UInt64.toNat_inj.mp shifted
    rw [set]
    rfl
  | positive =>
    have clear : value.toBits >>> 63 = 0 := UInt64.toNat_inj.mp shifted
    rw [clear]
    rfl

theorem ofFloat_eq :
    ofFloat value =
      if field.toNat = 0 then
        ⟨fraction.toNat, -1074⟩
      else
        ⟨2 ^ 52 + fraction.toNat, field.toNat - 1075⟩ := by
  have fieldBound := field.isLt
  have fractionBound := fraction.isLt
  have biased : ((value.toBits >>> 52) &&& 0x7FF).toNat = field.toNat := by
    rw [UInt64.toNat_and, UInt64.toNat_shiftRight, Nat.shiftRight_eq_div_pow]
    change value.toBits.toNat / 2 ^ 52 &&& (2 ^ 11 - 1) = _
    rw [Nat.and_two_pow_sub_one_eq_mod, toNat_toBits layout]
    omega
  have low : (value.toBits &&& 0xFFFFFFFFFFFFF).toNat = fraction.toNat := by
    rw [UInt64.toNat_and]
    change value.toBits.toNat &&& (2 ^ 52 - 1) = _
    rw [Nat.and_two_pow_sub_one_eq_mod, toNat_toBits layout]
    omega
  simp only [ofFloat, biased, low]
  rfl

theorem field_lt_of_isFinite (finite : value.isFinite = true) : field.toNat < 2047 := by
  have bound := field.isLt
  have notTop : field.toNat ≠ 2047 := by
    intro top
    obtain rfl : field = -1#11 := BitVec.eq_of_toNat_eq top
    have infinite := Layout.unpack_top sign fraction
    rw [← layout] at infinite
    exact Bool.false_ne_true (infinite.symm.trans finite)
  omega

theorem canonical_of_isFinite (finite : value.isFinite = true) : (ofFloat value).Canonical := by
  have fieldBound := field_lt_of_isFinite layout finite
  have fractionBound := fraction.isLt
  rw [ofFloat_eq layout]
  split
  · refine ⟨Nat.lt_trans fractionBound (by decide), Int.le_refl _, ?_, .inl rfl⟩
    change (-1074 : Int) ≤ 971
    decide
  · constructor <;> simp only <;> omega

theorem unpack_eq_signed (finite : value.isFinite = true) :
    value.toModel.unpack = (ofFloat value).signed sign := by
  have fieldBound := field_lt_of_isFinite layout finite
  have unpacked : value.toModel.unpack =
      UnpackedFloat.unpack Format.binary64 (packComponents Format.binary64 sign field fraction) :=
    congrArg (UnpackedFloat.unpack Format.binary64) layout
  rw [unpacked, ofFloat_eq layout]
  by_cases above : 0 < field.toNat
  · rw [Layout.unpack_normal above fieldBound, if_neg (Nat.ne_of_gt above)]
    symm
    exact signed_of_pos _
  · have bottom : field = 0#11 := BitVec.eq_of_toNat_eq (Nat.eq_zero_of_not_pos above)
    rw [if_pos (Nat.eq_zero_of_not_pos above), bottom]
    by_cases positive : 0 < fraction.toNat
    · rw [Layout.unpack_subnormal positive, signed_of_pos positive]
    · obtain rfl : fraction = 0#52 := BitVec.eq_of_toNat_eq (Nat.eq_zero_of_not_pos positive)
      exact Layout.unpack_zero sign

end Fields

theorem exists_toFloat (finite : value.isFinite = true) :
    ∃ sign, (ofFloat value).toFloat sign = value ∧ (ofFloat value).Canonical ∧
      (value.toBits >>> 63 == 1) = (sign == .negative) := by
  obtain ⟨sign, field, fraction, layout⟩ := Layout.exists_packComponents value.toBits.toBitVec
  exact ⟨sign, toFloat_of_unpack (unpack_eq_signed layout finite),
    canonical_of_isFinite layout finite, signBit_eq layout⟩

end Binary

end Verdict.Decimal
