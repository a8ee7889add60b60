import Mathlib.Data.List.Basic
import Mathlib.Data.List.TakeWhile
import Verdict.Text.Blank

/-! White space around a text: what is left of the text without it. -/

namespace Verdict.Text

theorem trimLeft_eq_self {text : List Char}
    (head : ∀ char, text.head? = some char → isBlank char = false) : trimLeft text = text := by
  cases text with
  | nil => rfl
  | cons first rest =>
    exact List.dropWhile_cons_of_neg (ne_true_of_eq_false (head first List.head?_cons))

theorem trim_eq_self {text : List Char}
    (head : ∀ char, text.head? = some char → isBlank char = false)
    (last : ∀ char, text.getLast? = some char → isBlank char = false) : trim text = text := by
  rw [← List.head?_reverse] at last
  rw [trim, trimLeft_eq_self head, trimLeft_eq_self last, List.reverse_reverse]

/-- A text has this core between white space, and the core neither begins nor ends with any. -/
structure TrimsTo (text core : String) : Prop where
  surrounded : ∃ before after, text.toList = before ++ (core.toList ++ after) ∧
    (∀ char ∈ before, isBlank char = true) ∧ ∀ char ∈ after, isBlank char = true
  head : ∀ char, core.toList.head? = some char → isBlank char = false
  last : ∀ char, core.toList.getLast? = some char → isBlank char = false

theorem exists_blank_append (text : List Char) :
    ∃ before, text = before ++ trimLeft text ∧ (∀ char ∈ before, isBlank char = true) ∧
      ∀ char, (trimLeft text).head? = some char → isBlank char = false := by
  refine ⟨text.takeWhile isBlank, List.takeWhile_append_dropWhile.symm,
    fun char => List.mem_takeWhile_imp, fun char first => ?_⟩
  have stop := List.head?_dropWhile_not isBlank text
  rw [show (text.dropWhile isBlank).head? = some char from first] at stop
  exact stop

theorem trimLeft_append {before : List Char} (blank : ∀ char ∈ before, isBlank char = true)
    (text : List Char) : trimLeft (before ++ text) = trimLeft text :=
  List.dropWhile_append_of_pos blank

theorem trimLeft_of_blank {text : List Char} (blank : ∀ char ∈ text, isBlank char = true) :
    trimLeft text = [] :=
  List.dropWhile_eq_nil_iff.mpr blank

theorem trim_eq_iff {text core : String} : trim text.toList = core.toList ↔ TrimsTo text core := by
  constructor
  · intro trimmed
    obtain ⟨before, leading, beforeBlank, first⟩ := exists_blank_append text.toList
    obtain ⟨after, trailing, afterBlank, last⟩ := exists_blank_append (trimLeft text.toList).reverse
    have whole : trimLeft text.toList = core.toList ++ after.reverse := by
      rw [← trimmed, trim, ← List.reverse_append, ← trailing, List.reverse_reverse]
    refine ⟨⟨before, after.reverse, whole ▸ leading, beforeBlank, ?_⟩, ?_, ?_⟩
    · simpa using afterBlank
    · intro char head
      exact first char (by rw [whole, List.head?_append, head, Option.some_or])
    · intro char final
      rw [← trimmed, trim, List.getLast?_reverse] at final
      exact last char final
  · rintro ⟨⟨before, after, whole, beforeBlank, afterBlank⟩, head, last⟩
    rw [trim, whole, trimLeft_append beforeBlank]
    by_cases empty : core.toList = []
    · rw [empty, List.nil_append, trimLeft_of_blank afterBlank]
      rfl
    · have first : trimLeft (core.toList ++ after) = core.toList ++ after := by
        refine trimLeft_eq_self fun char found => head char ?_
        rwa [List.head?_append_of_ne_nil _ empty] at found
      have reversed : ∀ char ∈ after.reverse, isBlank char = true := by simpa using afterBlank
      rw [first, List.reverse_append, trimLeft_append reversed, trimLeft_eq_self,
        List.reverse_reverse]
      intro char final
      exact last char (by rwa [List.head?_reverse] at final)

theorem trim_eq_nil_iff {text : String} :
    trim text.toList = [] ↔ ∀ char ∈ text.toList, isBlank char = true := by
  constructor
  · intro empty
    have trimmed : TrimsTo text "" := trim_eq_iff.mp empty
    obtain ⟨before, after, whole, beforeBlank, afterBlank⟩ := trimmed.surrounded
    rw [whole]
    exact List.forall_mem_append.mpr ⟨beforeBlank, afterBlank⟩
  · intro blank
    rw [trim, trimLeft_of_blank blank]
    rfl

end Verdict.Text
