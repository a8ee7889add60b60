/-!
Decimal digits of natural numbers, and the number that a run of digits denotes.
-/

namespace Verdict.Decimal

def digitChar (digit : Nat) : Char :=
  Char.ofNat ('0'.toNat + digit)

def digitValue (char : Char) : Nat :=
  char.toNat - '0'.toNat

def digits (number : Nat) : List Char :=
  if number < 10 then
    [digitChar number]
  else
    digits (number / 10) ++ [digitChar (number % 10)]
termination_by number

def ofDigits (run : List Char) : Nat :=
  run.foldl (fun number char => 10 * number + digitValue char) 0

theorem digitChar_digit {digit : Nat} (small : digit < 10) :
    (digitChar digit).isDigit = true ∧ digitValue (digitChar digit) = digit := by
  have cases : digit = 0 ∨ digit = 1 ∨ digit = 2 ∨ digit = 3 ∨ digit = 4 ∨ digit = 5 ∨
      digit = 6 ∨ digit = 7 ∨ digit = 8 ∨ digit = 9 := by omega
  rcases cases with rfl | rfl | rfl | rfl | rfl | rfl | rfl | rfl | rfl | rfl <;> decide

theorem ofDigits_append_singleton (run : List Char) (char : Char) :
    ofDigits (run ++ [char]) = 10 * ofDigits run + digitValue char := by
  simp [ofDigits]

theorem ofDigits_digits (number : Nat) : ofDigits (digits number) = number := by
  fun_induction digits number with
  | case1 number small => simp [ofDigits, digitChar_digit small]
  | case2 number large ih =>
    rw [ofDigits_append_singleton, ih, (digitChar_digit (Nat.mod_lt _ (by decide))).2]
    omega

theorem digits_ne_nil (number : Nat) : digits number ≠ [] := by
  rw [digits]
  split <;> simp

theorem isDigit_of_mem_digits {number : Nat} {char : Char} (member : char ∈ digits number) :
    char.isDigit = true := by
  fun_induction digits number with
  | case1 number small =>
    rw [List.mem_singleton.mp member]
    exact (digitChar_digit small).1
  | case2 number large ih =>
    rcases List.mem_append.mp member with higher | last
    · exact ih higher
    · rw [List.mem_singleton.mp last]
      exact (digitChar_digit (Nat.mod_lt _ (by decide))).1

end Verdict.Decimal
