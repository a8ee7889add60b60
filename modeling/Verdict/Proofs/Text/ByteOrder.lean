import Mathlib.Data.List.Basic
import Mathlib.Data.List.Lex
import Mathlib.Data.String.Basic

/-! Texts stand in the same order as their UTF-8 bytes. -/

namespace Verdict.Text

def bytes (text : String) : List UInt8 :=
  text.toUTF8.data.toList

theorem bytes_eq_flatMap (text : String) :
    bytes text = text.toList.flatMap String.utf8EncodeChar := by
  have encoded : text.toUTF8 = text.toList.utf8Encode := by
    rw [← String.toByteArray_ofList, String.ofList_toList, String.toUTF8]
  rw [bytes, encoded, List.utf8Encode, List.data_toByteArray]

/-- The encodings of two characters differ before the shorter one ends, so what comes after them
does not count. -/
theorem encode_append_lt {first second : Char} (less : first < second) (left right : List UInt8) :
    String.utf8EncodeChar first ++ left < String.utf8EncodeChar second ++ right := by
  have below : first.val.toNat < second.val.toNat := less
  have bound : second.val.toNat < 0x110000 := by
    rcases second.valid with low | ⟨-, high⟩ <;> omega
  -- Every byte after the first one is a digit to base 64 of the quotient before it.
  have two_digits (number : Nat) : number / 4096 = number / 64 / 64 := by omega
  have three_digits (number : Nat) : number / 262144 = number / 64 / 64 / 64 := by omega
  simp only [String.utf8EncodeChar]
  generalize first.val.toNat = low at *
  generalize second.val.toNat = high at *
  split_ifs <;>
    simp only [List.cons_append, List.nil_append, List.cons_lt_cons_iff, UInt8.lt_iff_toNat_lt,
      ← UInt8.toNat_inj, UInt8.toNat_ofNat', two_digits, three_digits]
  all_goals omega

theorem encode_lt_of_lt {left right : List Char} (less : left < right) :
    left.flatMap String.utf8EncodeChar < right.flatMap String.utf8EncodeChar := by
  induction left generalizing right with
  | nil =>
    cases right with
    | nil => exact absurd less (List.lt_irrefl _)
    | cons first right =>
      cases encoded : String.utf8EncodeChar first with
      | nil => exact absurd encoded String.utf8EncodeChar_ne_nil
      | cons byte later =>
        rw [List.flatMap_cons, encoded, List.cons_append]
        exact List.nil_lt_cons _ _
  | cons first left ih =>
    cases right with
    | nil => exact absurd less (List.not_lt_nil _)
    | cons second right =>
      rw [List.flatMap_cons, List.flatMap_cons]
      rcases List.cons_lt_cons_iff.mp less with earlier | ⟨rfl, later⟩
      · exact encode_append_lt earlier _ _
      · exact List.append_left_lt (ih later)

theorem bytes_lt_bytes_iff {left right : String} : bytes left < bytes right ↔ left < right := by
  have keeps {left right : String} (less : left < right) : bytes left < bytes right := by
    rw [bytes_eq_flatMap, bytes_eq_flatMap]
    exact encode_lt_of_lt (String.lt_iff_toList_lt.mp less)
  constructor
  · intro less
    rcases lt_trichotomy left right with found | rfl | reversed
    · exact found
    · exact absurd less (List.lt_irrefl _)
    · exact absurd less (List.lt_asymm (keeps reversed))
  · exact keeps

end Verdict.Text
