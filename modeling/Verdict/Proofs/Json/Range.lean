import Verdict.Proofs.Decimal.Overflow
import Verdict.Proofs.Decimal.ReadBack
import Verdict.Proofs.Json.Scale

/-! Which JSON numbers are doubles, and which doubles they are. The digits that fit 64 bits say
almost all of a number as it is written, and never more. -/

namespace Verdict.Json.Written

open Decimal (ofDigits Binary)
open Decimal.Binary

def total (number : Nat) (run : List Char) : Nat :=
  number * 10 ^ run.length + ofDigits run

theorem total_zero (run : List Char) : total 0 run = ofDigits run := by
  rw [total, Nat.zero_mul, Nat.zero_add]

theorem total_cons (number : Nat) (digit : Char) (rest : List Char) :
    total number (digit :: rest) = total (10 * number + Decimal.digitValue digit) rest := by
  rw [total, ← Decimal.foldl_digits, total, ← Decimal.foldl_digits]
  rfl

/-- What absorbing digits leaves of a number with digits behind it. -/
structure Absorbed (number : Nat) (run : List Char) (taken dropped : Nat) : Prop where
  below : taken * 10 ^ dropped ≤ total number run
  exact : dropped = 0 → taken = total number run
  great : 0 < dropped → UInt64.size * 10 ^ dropped ≤ 10 * total number run
  small : number < UInt64.size → taken < UInt64.size
  few : dropped = run.length ∧ taken = number ∨ dropped < run.length
  kept : number * 10 ^ run.length ≤ taken * 10 ^ dropped
  above : (∀ char ∈ run, char.isDigit = true) → total number run < (taken + 1) * 10 ^ dropped

theorem digitValue_lt {char : Char} (digit : char.isDigit = true) :
    Decimal.digitValue char < 10 := by
  have bounds := Char.isDigit_iff_toNat.mp digit
  have zero : '0'.toNat = 48 := rfl
  have nine : '9'.toNat = 57 := rfl
  rw [Decimal.digitValue]
  omega

theorem ofDigits_lt {run : List Char} (digits : ∀ char ∈ run, char.isDigit = true) :
    ofDigits run < 10 ^ run.length := by
  induction run using List.reverseRecOn with
  | nil => decide
  | append_singleton run last ih =>
    have higher := ih fun char member => digits char (List.mem_append_left _ member)
    have lowest := digitValue_lt (digits last (List.mem_append_right _ (List.mem_singleton_self _)))
    rw [Decimal.ofDigits_append_singleton, List.length_append, List.length_singleton, Nat.pow_succ]
    omega

theorem absorb_absorbed (number : Nat) (run : List Char) :
    Absorbed number run (absorb number run).1 (absorb number run).2 := by
  fun_induction absorb number run with
  | case1 number =>
    have nothing : total number [] = number := by simp [total, ofDigits]
    exact ⟨by simp [nothing], fun _ => nothing.symm, by simp, id, .inl ⟨rfl, rfl⟩, by simp,
      by simp [nothing]⟩
  | case2 number digit rest longer fits ih =>
    obtain ⟨below, exact, great, small, few, kept, above⟩ := ih
    rw [← total_cons] at below exact great above
    refine ⟨below, exact, great, fun _ => small fits, .inr ?_, ?_, fun digits => ?_⟩
    · rw [List.length_cons]
      omega
    · refine le_trans ?_ kept
      rw [List.length_cons, Nat.pow_succ, Nat.mul_comm (10 ^ _), ← Nat.mul_assoc]
      refine Nat.mul_le_mul_right _ ?_
      change number * 10 ≤ 10 * number + _
      omega
    · exact above (List.forall_mem_cons.mp digits).2
  | case3 number digit rest longer large =>
    have power : 0 < 10 ^ rest.length := Nat.pow_pos (by decide)
    refine ⟨Nat.le_add_right _ _, by simp, fun _ => ?_, id, .inl ⟨rfl, rfl⟩, le_rfl,
      fun digits => ?_⟩
    · rw [total_cons, total, Nat.pow_succ, ← Nat.mul_assoc]
      have scaled := Nat.mul_le_mul_right (10 ^ rest.length) (Nat.le_of_not_lt large)
      change UInt64.size * 10 ^ rest.length * 10 ≤ 10 * (longer * 10 ^ rest.length + _)
      omega
    · rw [total, Nat.add_mul, Nat.one_mul]
      exact Nat.add_lt_add_left (ofDigits_lt digits) _

def absorbed (written : Written) : Nat × Nat :=
  let first := absorb 0 written.whole
  let second := absorb first.1 (written.fraction.getD [])
  (second.1, first.2 + second.2)

def significand (written : Written) : Nat :=
  ofDigits (written.whole ++ written.fraction.getD [])

def places (written : Written) : Int :=
  written.exponent.getD 0 - (written.fraction.getD []).length

def magnitude (written : Written) : ℚ :=
  written.significand * 10 ^ written.places

theorem float?_eq (written : Written) :
    written.float? =
      (scaled? written.absorbed.1 (written.absorbed.2 + written.places)).map fun value =>
        if written.negative then -value else value := by
  have exponents : ((absorb 0 written.whole).2 : Int) +
      (absorb (absorb 0 written.whole).1 (written.fraction.getD [])).2 -
        (written.fraction.getD []).length + written.exponent.getD 0 =
          written.absorbed.2 + written.places := by
    simp only [absorbed, places]
    push_cast
    ring
  rw [← exponents]
  rfl

section Absorbing

variable (written : Written)

/-- The digits before the point are absorbed first, and those behind it as far as there is room. -/
theorem exists_parts :
    ∃ first second : Nat × Nat, Absorbed 0 written.whole first.1 first.2 ∧
      Absorbed first.1 (written.fraction.getD []) second.1 second.2 ∧
      written.absorbed = (second.1, first.2 + second.2) ∧
      written.significand = total (ofDigits written.whole) (written.fraction.getD []) :=
  ⟨_, _, absorb_absorbed _ _, absorb_absorbed _ _, rfl, Decimal.ofDigits_append _ _⟩

theorem absorbed_lt : written.absorbed.1 < UInt64.size := by
  obtain ⟨first, second, whole, fraction, parts, -⟩ := written.exists_parts
  rw [parts]
  exact fraction.small (whole.small (by decide))

theorem absorbed_le : written.absorbed.1 * 10 ^ written.absorbed.2 ≤ written.significand := by
  obtain ⟨first, second, taken, further, parts, number⟩ := written.exists_parts
  obtain ⟨below, exact, great, small, -, -, -⟩ := taken
  rw [total_zero] at below exact great
  rw [parts, number]
  rcases Nat.eq_zero_or_pos first.2 with none | some
  · rw [none, Nat.zero_add, ← exact none]
    exact further.below
  · rw [total]
    rcases further.few with ⟨all, kept⟩ | less
    · rw [all, kept, Nat.pow_add, ← Nat.mul_assoc]
      exact Nat.le_add_right_of_le (Nat.mul_le_mul_right _ below)
    · -- All that is taken fits 64 bits, and the first digit that was dropped did not.
      have fits : second.1 ≤ UInt64.size := Nat.le_of_lt (further.small (small (by decide)))
      calc
        second.1 * 10 ^ (first.2 + second.2) ≤ UInt64.size * 10 ^ first.2 * 10 ^ second.2 := by
          rw [Nat.pow_add, ← Nat.mul_assoc]
          gcongr
        _ ≤ 10 * ofDigits written.whole * 10 ^ second.2 := Nat.mul_le_mul_right _ (great some)
        _ = ofDigits written.whole * 10 ^ (second.2 + 1) := by
          rw [Nat.pow_succ]
          ac_rfl
        _ ≤ ofDigits written.whole * 10 ^ (written.fraction.getD []).length :=
          Nat.mul_le_mul_left _ (Nat.pow_le_pow_right (by decide) less)
        _ ≤ _ := Nat.le_add_right _ _

theorem Absorbed.eq_zero {number taken dropped : Nat} {run : List Char}
    (absorbed : Absorbed number run taken dropped) (fits : total number run < UInt64.size) :
    dropped = 0 := by
  by_contra some
  have ten : 10 ≤ 10 ^ dropped := Nat.le_self_pow some 10
  have great := absorbed.great (Nat.pos_of_ne_zero some)
  nlinarith

theorem absorbed_exact (small : written.significand < UInt64.size) :
    written.absorbed = (written.significand, 0) := by
  obtain ⟨first, second, taken, further, parts, number⟩ := written.exists_parts
  rw [number] at small
  have power : 0 < 10 ^ (written.fraction.getD []).length := Nat.pow_pos (by decide)
  have wholeFits : total 0 written.whole < UInt64.size := by
    rw [total_zero]
    rw [total] at small
    nlinarith
  have firstNone := taken.eq_zero wholeFits
  have firstExact := taken.exact firstNone
  rw [total_zero] at firstExact
  rw [firstExact] at further
  have secondNone := further.eq_zero small
  rw [parts, number, firstNone, secondNone, further.exact secondNone]

/-- What is dropped is less than a unit of what is taken, and that has 60 bits at least. -/
theorem absorbed_near (digits : ∀ char ∈ written.whole ++ written.fraction.getD [],
      char.isDigit = true) :
    2 ^ 60 * written.significand ≤
      2 ^ 60 * (written.absorbed.1 * 10 ^ written.absorbed.2) + written.significand := by
  obtain ⟨wholeDigits, fractionDigits⟩ := List.forall_mem_append.mp digits
  obtain ⟨first, second, taken, further, parts, number⟩ := written.exists_parts
  obtain ⟨-, exact, great, -, -, -, above⟩ := taken
  obtain ⟨-, nextExact, nextGreat, -, -, kept, nextAbove⟩ := further
  rw [total_zero] at exact great above
  have below := above wholeDigits
  have nextBelow := nextAbove fractionDigits
  rw [show UInt64.size = 2 ^ 64 from rfl] at great nextGreat
  rw [parts, number]
  dsimp only
  rcases Nat.eq_zero_or_pos first.2 with none | some
  · rw [exact none] at nextExact nextGreat nextBelow
    rw [none, Nat.zero_add]
    rcases Nat.eq_zero_or_pos second.2 with nextNone | nextSome
    · rw [nextExact nextNone, nextNone]
      omega
    · have unit := nextGreat nextSome
      rw [Nat.add_mul, Nat.one_mul] at nextBelow
      omega
  · rw [total]
    have fractional := ofDigits_lt fractionDigits
    generalize written.fraction.getD [] = fraction at *
    have unit : 2 ^ 60 * (10 ^ first.2 * 10 ^ fraction.length) ≤
        ofDigits written.whole * 10 ^ fraction.length := by
      rw [← Nat.mul_assoc]
      refine Nat.mul_le_mul_right _ ?_
      have := great some
      omega
    have upper : ofDigits written.whole * 10 ^ fraction.length + ofDigits fraction <
        first.1 * 10 ^ fraction.length * 10 ^ first.2 + 10 ^ first.2 * 10 ^ fraction.length := by
      calc
        ofDigits written.whole * 10 ^ fraction.length + ofDigits fraction <
            (ofDigits written.whole + 1) * 10 ^ fraction.length := by
          rw [Nat.add_mul, Nat.one_mul]
          exact Nat.add_lt_add_left fractional _
        _ ≤ (first.1 + 1) * 10 ^ first.2 * 10 ^ fraction.length := Nat.mul_le_mul_right _ below
        _ = _ := by ring
    have lower : first.1 * 10 ^ fraction.length * 10 ^ first.2 ≤
        second.1 * 10 ^ (first.2 + second.2) := by
      calc
        first.1 * 10 ^ fraction.length * 10 ^ first.2 ≤ second.1 * 10 ^ second.2 * 10 ^ first.2 :=
          Nat.mul_le_mul_right _ kept
        _ = second.1 * 10 ^ (first.2 + second.2) := by ring
    omega

end Absorbing

section Scaled

variable {significand : Nat} {exponent : Int}

theorem exists_scaled? (fits : significand < UInt64.size)
    (within : significand * 10 ^ exponent < leastOverflow) :
    ∃ value, scaled? significand exponent = some value := by
  by_cases tied : significand = 17976931348623156224 ∧ exponent = 289
  · -- The digits lie in the middle of two doubles and go to the lower one, which is even.
    obtain ⟨rfl, rfl⟩ := tied
    exact Option.isSome_iff_exists.mp (by decide +kernel)
  unfold scaled?
  simp only
  split
  · exact ⟨_, rfl⟩
  rename_i notNegative
  split
  · exact ⟨_, rfl⟩
  rename_i notZero
  obtain ⟨places, rfl⟩ := Int.eq_ofNat_of_zero_le (Int.not_lt.mp notNegative)
  have positive : 0 < significand := by
    apply Nat.pos_of_ne_zero
    rintro rfl
    exact notZero (by decide)
  rw [Int.natAbs_natCast]
  rw [zpow_natCast] at within
  by_cases few : places ≤ maxPlaces
  · obtain ⟨left, ten, product, leftRounds, bound, tenRounds, rounds, same⟩ :=
      exists_multiplied fits positive few
    have untied : ¬(significand = 17976931348623156224 ∧ places = 289) := by
      rintro ⟨middle, rfl⟩
      exact tied ⟨middle, rfl⟩
    have canonical := rounds.canonical (product_lt leftRounds tenRounds bound within untied)
    rw [if_pos few, same, (isInf_toFloat_iff rounds.regular).mpr canonical]
    exact ⟨_, rfl⟩
  · refine absurd leastOverflow_lt (not_lt.mpr (le_trans ?_ within.le))
    have one : (1 : ℚ) ≤ significand := by exact_mod_cast positive
    calc
      (10 : ℚ) ^ 309 ≤ 10 ^ places := pow_le_pow_right₀ (by norm_num) (Nat.lt_of_not_le few)
      _ ≤ significand * 10 ^ places := le_mul_of_one_le_left (by positivity) one

example : scaled? 17976931348623156225 289 = none := by decide +kernel

theorem le_exponent_of_leastOverflow_le (few : significand < 10 ^ 18)
    (great : leastOverflow ≤ significand * 10 ^ exponent) : 291 ≤ exponent := by
  by_contra less
  have digits : (significand : ℚ) < 10 ^ 18 := by exact_mod_cast few
  have power : (10 : ℚ) ^ (290 : Int) = 10 * 10 ^ 289 := by
    rw [← pow_succ', ← zpow_natCast]
    rfl
  refine absurd great (not_le.mpr ?_)
  calc
    (significand * 10 ^ exponent : ℚ) ≤ significand * 10 ^ (290 : Int) := by
      gcongr
      · norm_num
      · omega
    _ < 10 ^ 18 * 10 ^ (290 : Int) := by gcongr
    _ ≤ leastOverflow := by
      rw [power, leastOverflow, ← mul_assoc]
      gcongr
      norm_num

/-- With no more than 18 digits a number may be as great as the greatest double. -/
theorem exists_scaled?_of_few (few : significand < 10 ^ 18)
    (within : significand * 10 ^ exponent ≤ greatest.value) :
    ∃ value, scaled? significand exponent = some value := by
  rcases lt_or_ge (significand * 10 ^ exponent : ℚ) leastOverflow with small | great
  · exact exists_scaled? (few.trans (by decide)) small
  · obtain ⟨more, rfl⟩ := Int.le.dest (le_exponent_of_leastOverflow_le few great)
    rw [show (291 : Int) + more = (291 + more : Nat) from rfl, zpow_natCast] at great within
    obtain ⟨low, high⟩ := digits_of_leastOverflow_le great within
    apply Option.isSome_iff_exists.mp
    rcases more with _ | _ | more
    · rw [pow_zero, mul_one] at low high
      interval_cases significand <;> decide +kernel
    · obtain rfl : significand = 17976931348623157 := by omega
      decide +kernel
    · rw [Nat.pow_succ, Nat.pow_succ, Nat.mul_assoc, ← Nat.mul_assoc] at low high
      omega

end Scaled

/-- Up to the greatest double where there are no more than 18 digits, and up to the least overflow
where there are more. -/
def InRange (written : Written) : Prop :=
  written.magnitude < leastOverflow ∨
    written.significand < 10 ^ 18 ∧ written.magnitude ≤ greatest.value

theorem exists_float? {written : Written} (inRange : written.InRange) :
    ∃ value, written.float? = some value := by
  have read : ∃ value, scaled? written.absorbed.1 (written.absorbed.2 + written.places) =
      some value := by
    rcases inRange with within | ⟨few, within⟩
    · have taken : (written.absorbed.1 * 10 ^ written.absorbed.2 : ℚ) ≤ written.significand := by
        exact_mod_cast written.absorbed_le
      refine exists_scaled? written.absorbed_lt (lt_of_le_of_lt ?_ within)
      rw [magnitude, zpow_add₀ (by norm_num), zpow_natCast, ← mul_assoc]
      gcongr
    · rw [written.absorbed_exact (few.trans (by decide)), Int.natCast_zero, Int.zero_add]
      exact exists_scaled?_of_few few within
  obtain ⟨value, found⟩ := read
  rw [float?_eq, found]
  exact ⟨_, rfl⟩

def sign (written : Written) : Float.Model.UnpackedFloat.Sign :=
  if written.negative then .negative else .positive

/-- A number whose digits are all kept and which is rounded only once: both its digits and its power
of ten are doubles, or it has no power of ten. -/
def Brief (written : Written) : Prop :=
  written.significand < 2 ^ 53 ∧ written.places.natAbs ≤ 22 ∨
    written.significand < UInt64.size ∧ written.places = 0

/-- The magnitude of a double that a number may become. -/
structure Rounded (written : Written) (binary : Binary) : Prop where
  canonical : binary.Canonical
  near : |binary.value - written.magnitude| < written.magnitude / 2 ^ 50 + 2 ^ (-1074 : Int)
  closest : written.Brief → ∀ other : Binary, other.Canonical →
    |binary.value - written.magnitude| ≤ |other.value - written.magnitude|

theorem magnitude_nonneg (written : Written) : 0 ≤ written.magnitude := by
  rw [magnitude]
  positivity

theorem absorbed_within {written : Written}
    (digits : ∀ char ∈ written.whole ++ written.fraction.getD [], char.isDigit = true) :
    Within 1 0 written.magnitude
      (written.absorbed.1 * 10 ^ (written.absorbed.2 + written.places)) := by
  have below : (written.absorbed.1 * 10 ^ written.absorbed.2 : ℚ) ≤ written.significand := by
    exact_mod_cast written.absorbed_le
  have near : (2 ^ 60 * written.significand : ℚ) ≤
      2 ^ 60 * (written.absorbed.1 * 10 ^ written.absorbed.2) + written.significand := by
    exact_mod_cast written.absorbed_near digits
  rw [zpow_add₀ (by norm_num), zpow_natCast, ← mul_assoc]
  refine within_of_near ?_ written.magnitude_nonneg
  rw [magnitude, ← sub_mul, abs_mul, abs_of_pos (a := (10 : ℚ) ^ written.places) (by positivity),
    add_zero, mul_div_right_comm]
  refine mul_le_mul_of_nonneg_right ?_ (by positivity)
  have nonneg : (0 : ℚ) ≤ written.significand := Nat.cast_nonneg _
  rw [abs_le]
  constructor <;> linarith

theorem exists_rounded {written : Written} {value : Float}
    (digits : ∀ char ∈ written.whole ++ written.fraction.getD [], char.isDigit = true)
    (read : written.float? = some value) :
    ∃ binary : Binary, written.Rounded binary ∧ value = binary.toFloat written.sign := by
  rw [float?_eq] at read
  obtain ⟨unsigned, found, rfl⟩ := Option.map_eq_some_iff.mp read
  have signed {binary : Binary} (canonical : binary.Canonical)
      (same : unsigned = binary.toFloat .positive) :
      (if written.negative then -unsigned else unsigned) = binary.toFloat written.sign := by
    rw [same, sign]
    split
    · exact neg_toFloat canonical
    · rfl
  by_cases brief : written.Brief
  · have small : written.significand < UInt64.size := by
      have size : UInt64.size = 2 ^ 64 := rfl
      rcases brief with ⟨exact, -⟩ | ⟨fits, -⟩ <;> omega
    have plain : Plain written.significand written.places := brief.imp_right And.right
    rw [written.absorbed_exact small, Int.natCast_zero, Int.zero_add] at found
    obtain ⟨binary, canonical, same, rounds⟩ := exists_scaled_rounds small plain found
    have least : tiny < 2 ^ (-1074 : Int) := by
      rw [← two_mul_tiny]
      linarith [tiny_pos]
    have within := rounds.within written.magnitude_nonneg
    refine ⟨binary, ⟨canonical, ?_, fun _ other held => ?_⟩, signed canonical same⟩
    · exact within.abs_sub_lt written.magnitude_nonneg (by decide) least
    · exact rounds.closest other held.regular
  · obtain ⟨binary, canonical, same, within⟩ := exists_scaled_within written.absorbed_lt found
    refine ⟨binary, ⟨canonical, ?_, fun few => absurd few brief⟩, signed canonical same⟩
    have reached := (absorbed_within digits).trans within le_rfl
    rw [zero_mul, zero_add] at reached
    exact reached.abs_sub_lt written.magnitude_nonneg (by decide) margin_lt

end Verdict.Json.Written
