/-! The order of doubles. Two numbers are less, equal or greater, seen from the other side the other
way around, and only NaN stands in no order. -/

namespace Verdict.Decimal

open Float.Model

/-- How the first number stands to the second; none if one of them is NaN. -/
def order (left right : Float) : Option Ordering :=
  left.toModel.unpack.compare right.toModel.unpack

theorem compare_magnitudes_swap (exponent other : Int) (mantissa otherMantissa : Nat) :
    (compare exponent other).then (compare mantissa otherMantissa) =
      ((compare other exponent).then (compare otherMantissa mantissa)).swap := by
  rw [Ordering.swap_then, Int.compare_swap, Nat.compare_swap]

theorem compare_swap (left right : UnpackedFloat) :
    left.compare right = (right.compare left).map Ordering.swap := by
  cases left with
  | notANumber => cases right <;> rfl
  | infinity sign =>
    cases right with
    | notANumber => rfl
    | infinity other => cases sign <;> cases other <;> rfl
    | zero other => cases sign <;> rfl
    | finite other _ _ _ => cases sign <;> rfl
  | zero sign =>
    cases right with
    | notANumber => rfl
    | infinity other => cases other <;> rfl
    | zero other => rfl
    | finite other _ _ _ => cases other <;> rfl
  | finite sign mantissa exponent _ =>
    cases right with
    | notANumber => rfl
    | infinity other => cases other <;> cases sign <;> rfl
    | zero other => cases sign <;> rfl
    | finite other otherMantissa otherExponent _ =>
      have swapped := compare_magnitudes_swap exponent otherExponent mantissa otherMantissa
      cases sign with
      | negative =>
        cases other with
        | negative => exact congrArg (fun found : Ordering => some found.swap) swapped
        | positive => rfl
      | positive =>
        cases other with
        | negative => rfl
        | positive => exact congrArg some swapped

variable {left right value : Float}

theorem order_swap (left right : Float) : order left right = (order right left).map Ordering.swap :=
  compare_swap _ _

theorem beq_eq (left right : Float) : (left == right) = (order left right == some .eq) :=
  rfl

theorem lt_iff : left < right ↔ order left right = some .lt := by
  change decide ((order left right == some .lt) = true) = true ↔ _
  rw [decide_eq_true_iff, beq_iff_eq]

theorem le_iff : left ≤ right ↔ (order left right).any Ordering.isLE = true := by
  change decide ((order left right).any Ordering.isLE = true) = true ↔ _
  rw [decide_eq_true_iff]

theorem order_self (number : value.isNaN = false) : order value value = some .eq := by
  change value.toModel.unpack.isNaN = false at number
  unfold order
  generalize value.toModel.unpack = unpacked at number
  cases unpacked with
  | notANumber => cases number
  | infinity sign => cases sign <;> rfl
  | zero sign => rfl
  | finite sign mantissa exponent _ =>
    have same : (compare exponent exponent).then (compare mantissa mantissa) = .eq := by simp
    cases sign with
    | negative => exact congrArg (fun found : Ordering => some found.swap) same
    | positive => exact congrArg some same

theorem beq_self (number : value.isNaN = false) : (value == value) = true := by
  rw [beq_eq, order_self number]
  rfl

end Verdict.Decimal
