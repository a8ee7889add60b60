import Verdict.Text.Case

/-! Folding changes capital letters only, so digits, signs and marks are told apart before and after
it in the same way. -/

namespace Verdict.Text

variable {char symbol : Char} {text symbols : List Char} {token other word : String}

theorem toNat_toLower (char : Char) :
    char.toLower.toNat =
      if 65 ≤ char.toNat ∧ char.toNat ≤ 90 then char.toNat + 32 else char.toNat := by
  have upper : char.val ≥ 'A'.val ∧ char.val ≤ 'Z'.val ↔ 65 ≤ char.toNat ∧ char.toNat ≤ 90 := by
    rw [ge_iff_le, UInt32.le_iff_toNat_le, UInt32.le_iff_toNat_le]
    exact Iff.rfl
  unfold Char.toLower
  split
  · rename_i capital
    have range := upper.mp capital
    have same : char.toNat = char.val.toNat := rfl
    have shift : ('a'.val - 'A'.val).toNat = 32 := by decide
    rw [if_pos range]
    change (char.val + ('a'.val - 'A'.val)).toNat = _
    rw [UInt32.toNat_add]
    omega
  · rename_i fixed
    rw [if_neg (fixed ∘ upper.mpr)]

theorem toLower_of_lt (small : symbol.toNat < 65) : symbol.toLower = symbol := by
  rw [← Char.toNat_inj, toNat_toLower, if_neg (by omega)]

theorem eq_of_toLower_eq (lower : char.toLower = symbol) (small : symbol.toNat < 97) :
    char = symbol := by
  rw [← Char.toNat_inj, toNat_toLower] at lower
  rw [← Char.toNat_inj]
  split at lower <;> omega

theorem toLower_eq_iff (small : symbol.toNat < 65) : char.toLower = symbol ↔ char = symbol := by
  constructor
  · intro lower
    exact eq_of_toLower_eq lower (by omega)
  · rintro rfl
    exact toLower_of_lt small

theorem map_toLower_eq_iff (small : ∀ symbol ∈ symbols, symbol.toNat < 65) :
    text.map Char.toLower = symbols ↔ text = symbols := by
  induction symbols generalizing text with
  | nil => simp
  | cons symbol symbols ih =>
    obtain ⟨smallFirst, smallRest⟩ := List.forall_mem_cons.mp small
    cases text with
    | nil => simp
    | cons char rest => simp [toLower_eq_iff smallFirst, ih smallRest]

theorem isDigit_toLower (char : Char) : char.toLower.isDigit = char.isDigit := by
  rw [Bool.eq_iff_iff, Char.isDigit_iff_toNat, Char.isDigit_iff_toNat, toNat_toLower]
  simp only [Char.reduceToNat]
  split <;> omega

theorem isDigit_comp_toLower : Char.isDigit ∘ Char.toLower = Char.isDigit :=
  funext isDigit_toLower

theorem lt_of_isDigit (digit : char.isDigit = true) : char.toNat < 65 := by
  have bounds := Char.isDigit_iff_toNat.mp digit
  simp only [Char.reduceToNat] at bounds
  omega

theorem toLower_of_isDigit (digit : char.isDigit = true) : char.toLower = char :=
  toLower_of_lt (lt_of_isDigit digit)

theorem map_toLower_of_isDigit (digits : ∀ char ∈ text, char.isDigit = true) :
    text.map Char.toLower = text :=
  (map_toLower_eq_iff fun char member => lt_of_isDigit (digits char member)).mpr rfl

theorem sameFolded_congr (same : sameFolded token other = true) (word : String) :
    sameFolded token word = sameFolded other word := by
  rw [sameFolded, sameFolded, sameFolded_iff.mp same]

theorem sameFolded_symbol_iff (small : ∀ symbol ∈ word.toList, symbol.toNat < 65) :
    sameFolded token word = true ↔ token = word := by
  have fixed : folded word = word.toList := (map_toLower_eq_iff small).mpr rfl
  rw [sameFolded_iff, fixed, folded, map_toLower_eq_iff small, String.toList_inj]

end Verdict.Text
