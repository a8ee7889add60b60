import Mathlib.Algebra.Ring.Parity
import Mathlib.Data.List.Basic
import Mathlib.Data.List.Count
import Mathlib.Logic.ExistsUnique
import Verdict.Proofs.Token.Seam

/-! Tokenization as maximal munch. A text is gaps of white space and tokens in turn, and what may
not follow a token leaves only one way to divide it. -/

namespace Verdict

namespace Lexeme

variable {char : Char} {gap token text rest : List Char} {tokens : List (List Char)} {kind : Kind}

def Kind.ofToken : List Char → Kind
  | [] => .word
  | [char] => if isWordChar char then .word else if char = '\'' then .quote else .symbol
  | char :: _ :: _ =>
    if isWordChar char then .word
    else if char = '\'' then .quoted
    else if char = '-' then .signed
    else .pair

theorem Kind.ofToken_eq (spells : kind.Spells token) : ofToken token = kind := by
  cases kind with
  | quoted =>
    obtain ⟨body, -, rfl⟩ := spells
    cases body <;> simp [ofToken, isWordChar_quote]
  | quote =>
    obtain rfl := spells
    simp [ofToken, isWordChar_quote]
  | word =>
    obtain ⟨given, word⟩ := spells
    obtain ⟨first, inner, rfl⟩ := List.exists_cons_of_ne_nil given
    cases inner <;> simp [ofToken, word first List.mem_cons_self]
  | signed =>
    obtain ⟨digit, inner, -, -, rfl⟩ := spells
    rfl
  | pair => rcases spells with rfl | rfl | rfl <;> rfl
  | symbol =>
    obtain ⟨char, other, noWord, -, rfl⟩ := spells
    simp [ofToken, noWord, other]

theorem shape_iff_exists_kind : Shape token ↔ ∃ kind : Kind, kind.Spells token := by
  constructor
  · intro shape
    cases shape with
    | quoted body plain => exact ⟨.quoted, body, plain, rfl⟩
    | unclosed => exact ⟨.quote, rfl⟩
    | word first inner starts inside =>
      exact (spells_of_startsWord starts inside).elim (⟨.word, ·⟩) (⟨.signed, ·⟩)
    | pair first starts =>
      refine ⟨.pair, ?_⟩
      rcases (startsPair_iff.mp starts).1 with rfl | rfl | rfl <;> simp [Kind.Spells]
    | single char other noWord visible => exact ⟨.symbol, char, other, noWord, visible, rfl⟩
  · rintro ⟨kind, spells⟩
    cases kind with
    | quoted =>
      obtain ⟨body, plain, rfl⟩ := spells
      exact .quoted body plain
    | quote =>
      obtain rfl := spells
      exact .unclosed
    | word =>
      obtain ⟨given, word⟩ := spells
      obtain ⟨first, inner, rfl⟩ := List.exists_cons_of_ne_nil given
      obtain ⟨starts, inside⟩ := List.forall_mem_cons.mp word
      exact .word first inner (startsWord_iff.mpr (.inl starts)) inside
    | signed =>
      obtain ⟨digit, inner, isDigit, inside, rfl⟩ := spells
      have starts := startsWord_iff.mpr (.inr ⟨rfl, digit, inner, isDigit, rfl⟩)
      exact .word '-' (digit :: inner) starts
        (List.forall_mem_cons.mpr ⟨isWordChar_of_isDigit isDigit, inside⟩)
    | pair => rcases spells with rfl | rfl | rfl <;> exact .pair _ (by decide)
    | symbol =>
      obtain ⟨char, other, noWord, visible, rfl⟩ := spells
      exact .single char other noWord visible

theorem shape_iff_existsUnique_kind : Shape token ↔ ∃! kind : Kind, kind.Spells token := by
  rw [shape_iff_exists_kind]
  constructor
  · rintro ⟨kind, spells⟩
    refine ⟨kind, spells, ?_⟩
    intro other same
    rw [← Kind.ofToken_eq same, Kind.ofToken_eq spells]
  · rintro ⟨kind, spells, -⟩
    exact ⟨kind, spells⟩

/-- White space, a token of one kind, what may follow it, and so on to the white space at the
end. -/
inductive Munches : List Char → List (List Char) → Prop where
  | done {gap : List Char} (blank : ∀ char ∈ gap, Text.isBlank char = true) : Munches gap []
  | token {gap token after : List Char} {tokens : List (List Char)}
      (blank : ∀ char ∈ gap, Text.isBlank char = true)
      (kind : ∃! kind : Kind, kind.Spells token) (ended : Ended token after)
      (rest : Munches after tokens) : Munches (gap ++ token ++ after) (token :: tokens)

theorem lexemes_blank (blank : ∀ char ∈ gap, Text.isBlank char = true) (rest : List Char) :
    lexemes (gap ++ rest) = lexemes rest := by
  induction gap with
  | nil => rfl
  | cons first gap ih =>
    obtain ⟨first, blank⟩ := List.forall_mem_cons.mp blank
    rw [List.cons_append, lexemes, if_pos first, ih blank]

theorem Munches.blank (munches : Munches text tokens) (blank : Text.isBlank char = true) :
    Munches (char :: text) tokens := by
  cases munches with
  | done gap => exact .done (List.forall_mem_cons.mpr ⟨blank, gap⟩)
  | token gap kind ended rest =>
    exact .token (List.forall_mem_cons.mpr ⟨blank, gap⟩) kind ended rest

theorem munches_iff : Munches text tokens ↔ lexemes text = tokens := by
  constructor
  · intro munches
    induction munches with
    | @done gap blank => rw [← List.append_nil gap, lexemes_blank blank, lexemes_nil]
    | token blank kind ended rest ih =>
      rw [List.append_assoc, lexemes_blank blank,
        lexemes_append (shape_iff_existsUnique_kind.mpr kind) ended, ih]
  · rintro rfl
    fun_induction lexemes text with
    | case1 => exact .done (by simp)
    | case2 first rest blank ih => exact ih.blank blank
    | case3 first rest visible ih =>
      obtain ⟨shape, ended⟩ := cut_split (by simpa using visible) rest
      rw [← split_append first rest]
      have noGap := List.forall_mem_nil fun char => Text.isBlank char = true
      exact .token noGap (shape_iff_existsUnique_kind.mp shape) ended ih

theorem lone_quote_lexemes (text : List Char) :
    (['\''] ∈ lexemes text ↔ Odd (text.count '\'')) ∧ (lexemes text).count ['\''] ≤ 1 := by
  fun_induction lexemes text with
  | case1 => simp
  | case2 first rest blank ih =>
    have other : first ≠ '\'' := by
      rintro rfl
      exact absurd blank (by decide)
    rwa [List.count_cons_of_ne other]
  | case3 first rest visible ih =>
    obtain ⟨shape, ended⟩ := cut_split (by simpa using visible) rest
    rw [← split_append first rest, List.count_append]
    by_cases lone : (split first rest).1 = ['\'']
    · have plain : (split first rest).2.count '\'' = 0 :=
        List.count_eq_zero_of_not_mem (ended.quote lone)
      rw [plain] at ih
      have later : ['\''] ∉ lexemes (split first rest).2 := by simpa using ih.1
      simp [lone, plain, List.count_eq_zero_of_not_mem later]
    · rw [List.mem_cons, or_iff_right (Ne.symm lone), List.count_cons_of_ne lone,
        Nat.odd_add', iff_true_right (shape.even_quotes lone)]
      exact ih

end Lexeme

open Lexeme

theorem tokenize_eq_iff {text : String} {tokens : List String} :
    tokenize text = tokens ↔ lexemes text.toList = tokens.map String.toList := by
  rw [tokenize]
  constructor
  · rintro rfl
    simp [Function.comp_def]
  · intro same
    simp [same, Function.comp_def]

/-- The tokens of a text are its only division into gaps of white space and tokens, each of one
kind, where no token is followed by what would belong to it. A lone quote is left over if and only
if the number of quotes is odd, and then once. -/
theorem tokenize_eq_iff_munches (text : String) (tokens : List String) :
    tokenize text = tokens ↔
      Munches text.toList (tokens.map String.toList) ∧ (∀ token ∈ tokens, token ≠ "") ∧
      ("'" ∈ tokens ↔ Odd (text.toList.count '\'')) ∧ tokens.count "'" ≤ 1 := by
  rw [munches_iff, ← tokenize_eq_iff]
  refine (and_iff_left_of_imp ?_).symm
  rintro rfl
  refine ⟨?_, ?_⟩
  · intro token member
    exact mt String.toList_eq_nil_iff.mpr (ne_nil_of_shape (shape_of_mem_tokenize member))
  · have injective : Function.Injective String.ofList := fun _ _ => String.ofList_injective
    have spelled : "'" = String.ofList ['\''] := rfl
    rw [tokenize, spelled, List.mem_map_of_injective injective,
      List.count_map_of_injective _ _ injective]
    exact lone_quote_lexemes text.toList

end Verdict
