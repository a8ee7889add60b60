import Mathlib.Algebra.Group.Nat.Even
import Verdict.Proofs.Token.Boundary

/-! Where one text is set after another. The tokens of both stay as they are if the second text
starts with a character that continues no token, and no quote of it can close one of the first. -/

namespace Verdict

namespace Lexeme

variable {first : Char} {left right token : List Char}

theorem Ended.append (ended : Ended token left) (detached : Detached right)
    (closed : token = ['\''] → '\'' ∉ right) : Ended token (left ++ right) := by
  cases left with
  | nil => exact detached.ended closed
  | cons next left =>
    exact {
      word := ended.word
      minus := ended.minus
      operator := ended.operator
      quote := fun lone => List.mem_append.not.mpr (not_or_intro (ended.quote lone) (closed lone)) }

theorem Shape.even_quotes (shape : Shape token) (other : token ≠ ['\'']) :
    Even (token.count '\'') := by
  have quiet : ∀ {text : List Char}, '\'' ∉ text → Even (text.count '\'') := by
    intro text plain
    rw [List.count_eq_zero_of_not_mem plain]
    exact Even.zero
  cases shape with
  | quoted body plain =>
    rw [List.count_cons_self, List.count_append, List.count_eq_zero_of_not_mem plain]
    exact ⟨1, rfl⟩
  | unclosed => exact absurd rfl other
  | word first inner starts inside =>
    apply quiet
    rintro (_ | ⟨_, member⟩)
    · exact absurd ((startsWord_quote inner).symm.trans starts) Bool.false_ne_true
    · exact absurd (inside _ member) (by decide)
  | pair first starts =>
    apply quiet
    rintro (_ | ⟨_, member⟩)
    · exact absurd starts (by decide)
    · exact absurd (List.mem_singleton.mp member) (by decide)
  | single first noQuote noWord visible =>
    apply quiet
    intro member
    exact noQuote (List.mem_singleton.mp member).symm

theorem split_eq_lone_quote (lone : (split first left).1 = ['\'']) :
    first = '\'' ∧ '\'' ∉ left := by
  have whole := split_append first left
  rw [lone] at whole
  obtain ⟨rfl, -⟩ := List.cons.inj whole
  refine ⟨rfl, ?_⟩
  intro closing
  obtain ⟨body, after, plain, rfl⟩ := exists_body_of_mem closing
  rw [split_quoted plain] at lone
  simp at lone

/-- All quotes of the first text are closed in it, or the second text has none. -/
def QuotesApart (left right : List Char) : Prop :=
  Even (left.count '\'') ∨ '\'' ∉ right

theorem QuotesApart.closed (apart : QuotesApart (first :: left) right)
    (lone : (split first left).1 = ['\'']) : '\'' ∉ right := by
  obtain ⟨rfl, unclosed⟩ := split_eq_lone_quote lone
  rcases apart with even | plain
  · rw [List.count_cons_self, List.count_eq_zero_of_not_mem unclosed] at even
    exact absurd even (by decide)
  · exact plain

theorem QuotesApart.blank (apart : QuotesApart (first :: left) right)
    (blank : Text.isBlank first = true) : QuotesApart left right := by
  refine apart.imp_left fun even => ?_
  rwa [List.count_cons_of_ne] at even
  rintro rfl
  exact absurd blank (by decide)

theorem QuotesApart.rest (apart : QuotesApart (first :: left) right)
    (visible : Text.isBlank first = false) : QuotesApart (split first left).2 right := by
  by_cases lone : (split first left).1 = ['\'']
  · exact .inr (apart.closed lone)
  · refine apart.imp_left fun even => ?_
    rw [← split_append first left, List.count_append] at even
    exact (Nat.even_add.mp even).mp ((cut_split visible left).1.even_quotes lone)

end Lexeme

open Lexeme

theorem lexemes_seam {left right : List Char} (detached : Detached right)
    (apart : QuotesApart left right) : lexemes (left ++ right) = lexemes left ++ lexemes right := by
  fun_induction lexemes left with
  | case1 => rfl
  | case2 first rest blank ih =>
    rw [List.cons_append, lexemes, if_pos blank]
    exact ih (apart.blank blank)
  | case3 first rest visible ih =>
    have visible : Text.isBlank first = false := by simpa using visible
    obtain ⟨shape, ended⟩ := cut_split visible rest
    rw [← split_append first rest, List.append_assoc,
      lexemes_append shape (ended.append detached apart.closed), ih (apart.rest visible)]
    rfl

theorem tokenize_seam {left right : String} (detached : Detached right.toList)
    (apart : QuotesApart left.toList right.toList) :
    tokenize (left ++ right) = tokenize left ++ tokenize right := by
  rw [tokenize, String.toList_append, lexemes_seam detached apart, List.map_append]
  rfl

end Verdict
