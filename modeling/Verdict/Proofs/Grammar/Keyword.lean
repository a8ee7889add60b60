import Verdict.Proofs.Grammar.Phrase
import Verdict.Proofs.Text.Folding

/-!
Words and the tokens that may follow a phrase. No token is two different words at once, and no
operator is a word, so one token decides how a phrase goes on.
-/

namespace Verdict

namespace Text

theorem sameFolded_parenthesis_iff {mark token : String} (parenthesis : mark = "(" ∨ mark = ")") :
    sameFolded token mark = true ↔ token = mark := by
  apply sameFolded_symbol_iff
  rcases parenthesis with rfl | rfl <;> simp

theorem sameFolded_other {token word other : String} (same : sameFolded token word = true)
    (differ : sameFolded word other = false) : sameFolded token other = false :=
  (sameFolded_congr same other).trans differ

end Text

open Phrase (Keyword)

theorem Phrase.Keyword.eq_of_token {word : String} {left right : Keyword word}
    (same : left.token = right.token) : left = right := by
  cases left
  cases right
  cases same
  rfl

namespace Grammar

theorem takeWord_eq_some_iff {word : String} {tokens rest : List String} :
    takeWord word tokens = some rest ↔
      ∃ keyword : Keyword word, tokens = keyword.token :: rest := by
  constructor
  · intro taken
    cases tokens with
    | nil => simp [takeWord] at taken
    | cons token tail =>
      simp only [takeWord] at taken
      split at taken
      · rename_i same
        exact ⟨⟨token, same⟩, by rw [Option.some.inj taken]⟩
      · simp at taken
  · rintro ⟨keyword, rfl⟩
    simp [takeWord, keyword.spelled]

theorem takeWord_keyword {word : String} (keyword : Keyword word) (rest : List String) :
    takeWord word (keyword.token :: rest) = some rest :=
  takeWord_eq_some_iff.mpr ⟨keyword, rfl⟩

theorem takeWord_cons_eq_none_iff {word token : String} {rest : List String} :
    takeWord word (token :: rest) = none ↔ Text.sameFolded token word = false := by
  simp [takeWord]

theorem takeWord_other {word other : String} (keyword : Keyword word)
    (differ : Text.sameFolded word other = false) (rest : List String) :
    takeWord other (keyword.token :: rest) = none :=
  takeWord_cons_eq_none_iff.mpr (Text.sameFolded_other keyword.spelled differ)

theorem takeWord_parenthesis_eq_some_iff {mark : String} (parenthesis : mark = "(" ∨ mark = ")")
    {tokens rest : List String} : takeWord mark tokens = some rest ↔ tokens = mark :: rest := by
  rw [takeWord_eq_some_iff]
  constructor
  · rintro ⟨keyword, rfl⟩
    rw [(Text.sameFolded_parenthesis_iff parenthesis).mp keyword.spelled]
  · rintro rfl
    exact ⟨⟨mark, (Text.sameFolded_parenthesis_iff parenthesis).mpr rfl⟩, rfl⟩

theorem takeWord_opening_cons {token : String} (other : token ≠ "(") (rest : List String) :
    takeWord "(" (token :: rest) = none := by
  rw [takeWord_cons_eq_none_iff, Bool.eq_false_iff]
  exact fun same => other ((Text.sameFolded_parenthesis_iff (.inl rfl)).mp same)

theorem takeWord_symbol (operator : Operator) {word : String}
    (words : word = "NOT" ∨ word = "NULL") (rest : List String) :
    takeWord word (operator.symbol :: rest) = none := by
  rw [takeWord_cons_eq_none_iff]
  rcases words with rfl | rfl <;> cases operator <;> decide

theorem endsAtom_connective {connective : Connective} (keyword : Keyword connective.word)
    (rest : List String) : endsAtom (keyword.token :: rest) = true := by
  have spelled := keyword.spelled
  cases connective with
  | and => simp_all [endsAtom, Connective.word]
  | or => simp_all [endsAtom, Connective.word]

theorem endsAtom_keyword {word : String} (keyword : Keyword word)
    (words : word = "NOT" ∨ word = "NULL") (rest : List String) :
    endsAtom (keyword.token :: rest) = false := by
  have spelled := keyword.spelled
  have closing : keyword.token ≠ ")" := by
    intro same
    rw [same] at spelled
    rcases words with rfl | rfl <;> revert spelled <;> decide
  have others : Text.sameFolded word "AND" = false ∧ Text.sameFolded word "OR" = false := by
    rcases words with rfl | rfl <;> decide
  simp [endsAtom, closing, Text.sameFolded_other spelled others.1,
    Text.sameFolded_other spelled others.2]

theorem endsAtom_symbol (operator : Operator) (rest : List String) :
    endsAtom (operator.symbol :: rest) = false := by
  cases operator <;> simp [endsAtom, Operator.symbol] <;> decide

end Grammar

end Verdict
