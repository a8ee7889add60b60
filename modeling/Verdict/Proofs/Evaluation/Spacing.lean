import Verdict.Evaluation
import Verdict.Proofs.Token.Munch

/-! White space between tokens. Which white space stands between two tokens, and how much of it,
makes no difference, so a text can be written anew with single spaces between its tokens. -/

namespace Verdict

namespace Lexeme

variable {char : Char} {gap text token : List Char}

theorem detached_blank (given : gap ≠ []) (blank : ∀ char ∈ gap, Text.isBlank char = true)
    (rest : List Char) : Detached (gap ++ rest) := by
  obtain ⟨first, tail, rfl⟩ := List.exists_cons_of_ne_nil given
  have white := blank first List.mem_cons_self
  intro next head
  obtain rfl : first = next := by simpa using head
  constructor
  · rw [← Bool.not_eq_true]
    intro word
    exact Bool.false_ne_true ((isBlank_of_isWordChar word).symm.trans white)
  · rintro rfl
    exact absurd white (by decide)

theorem quote_notMem_blank (blank : ∀ char ∈ gap, Text.isBlank char = true) : '\'' ∉ gap := by
  intro member
  exact absurd (blank '\'' member) (by decide)

theorem mem_of_mem_lexemes (member : token ∈ lexemes text) (inside : char ∈ token) :
    char ∈ text := by
  fun_induction lexemes text with
  | case1 => contradiction
  | case2 first rest blank ih => exact List.mem_cons_of_mem first (ih member)
  | case3 first rest visible ih =>
    rw [← split_append first rest]
    rcases List.mem_cons.mp member with rfl | later
    · exact List.mem_append_left _ inside
    · exact List.mem_append_right _ (ih later)

theorem pairwise_quotesApart (text : List Char) : (lexemes text).Pairwise QuotesApart := by
  fun_induction lexemes text with
  | case1 => exact .nil
  | case2 first rest blank ih => exact ih
  | case3 first rest visible ih =>
    obtain ⟨shape, ended⟩ := cut_split (by simpa using visible) rest
    refine .cons ?_ ih
    intro later member
    by_cases lone : (split first rest).1 = ['\'']
    · exact .inr fun quote => ended.quote lone (mem_of_mem_lexemes member quote)
    · exact .inl (shape.even_quotes lone)

end Lexeme

open Lexeme

theorem tokenize_gap {left gap right : String} (given : gap ≠ "")
    (blank : ∀ char ∈ gap.toList, Text.isBlank char = true)
    (apart : QuotesApart left.toList right.toList) :
    tokenize (left ++ gap ++ right) = tokenize left ++ tokenize right := by
  have detached : Detached (gap ++ right).toList := by
    rw [String.toList_append]
    exact detached_blank (mt String.toList_eq_nil_iff.mp given) blank _
  have across : QuotesApart left.toList (gap ++ right).toList := by
    rw [String.toList_append]
    exact apart.imp_right fun plain =>
      List.mem_append.not.mpr (not_or_intro (quote_notMem_blank blank) plain)
  have passed : tokenize (gap ++ right) = tokenize right := by
    rw [tokenize, String.toList_append, lexemes_blank blank, tokenize]
  rw [String.append_assoc, tokenize_seam detached across, passed]

theorem tokenize_of_mem {text token : String} (member : token ∈ tokenize text) :
    tokenize token = [token] := by
  have alone : tokenize (token ++ "") = token :: tokenize "" :=
    tokenize_append (shape_of_mem_tokenize member) separated_nil fun _ => rfl
  rwa [String.append_empty, tokenize_empty] at alone

theorem quote_notMem_intercalate {tokens : List String}
    (plain : ∀ token ∈ tokens, '\'' ∉ token.toList) : '\'' ∉ (" ".intercalate tokens).toList := by
  induction tokens with
  | nil => simp
  | cons first rest ih =>
    obtain ⟨outside, plain⟩ := List.forall_mem_cons.mp plain
    cases rest with
    | nil => rwa [String.intercalate_singleton]
    | cons second rest =>
      rw [String.intercalate_cons_cons, String.toList_append, String.toList_append]
      simpa [outside] using ih plain

theorem tokenize_intercalate {tokens : List String}
    (whole : ∀ token ∈ tokens, tokenize token = [token])
    (apart : tokens.Pairwise fun earlier later => QuotesApart earlier.toList later.toList) :
    tokenize (" ".intercalate tokens) = tokens := by
  induction apart with
  | nil => rw [String.intercalate_nil, tokenize_empty]
  | @cons first rest apart others ih =>
    obtain ⟨single, whole⟩ := List.forall_mem_cons.mp whole
    cases rest with
    | nil => rw [String.intercalate_singleton, single]
    | cons second rest =>
      have across : QuotesApart first.toList (" ".intercalate (second :: rest)).toList := by
        by_cases even : Even (first.toList.count '\'')
        · exact .inl even
        · exact .inr (quote_notMem_intercalate fun token member =>
            (apart token member).resolve_left even)
      have blank : ∀ char ∈ " ".toList, Text.isBlank char = true :=
        List.forall_mem_singleton.mpr (by decide)
      rw [String.intercalate_cons_cons, tokenize_gap (by decide) blank across, single, ih whole]
      rfl

theorem tokenize_intercalate_tokenize (text : String) :
    tokenize (" ".intercalate (tokenize text)) = tokenize text := by
  refine tokenize_intercalate (fun token member => tokenize_of_mem member) ?_
  rw [tokenize, List.pairwise_map]
  simpa using pairwise_quotesApart text.toList

theorem Reading.read_congr {α : Type} (reading : Reading α) {left right : String}
    (same : tokenize left = tokenize right) : reading.read left = reading.read right := by
  rw [read, same, read]

/-- White space between two texts only ends the tokens of the first, unless a quote of the second
one closes one of the first. Every token is its own only token, so a text and its tokens with single
spaces between them have the same tokens, the same tree and the same value. -/
theorem spaced_tokens_preserved :
    (∀ left gap right : String, gap ≠ "" → (∀ char ∈ gap.toList, Text.isBlank char = true) →
      Even (left.toList.count '\'') ∨ '\'' ∉ right.toList →
      tokenize (left ++ gap ++ right) = tokenize left ++ tokenize right) ∧
    (∀ text, ∀ token ∈ tokenize text, tokenize token = [token]) ∧
    ∀ text, let spaced := " ".intercalate (tokenize text)
      tokenize spaced = tokenize text ∧ compile spaced = compile text ∧
      ∀ bindings, evaluate bindings spaced = evaluate bindings text := by
  refine ⟨fun _ _ _ given blank apart => tokenize_gap given blank apart,
    fun _ _ member => tokenize_of_mem member, ?_⟩
  intro text spaced
  have same := tokenize_intercalate_tokenize text
  refine ⟨same, ?_, fun bindings => Reading.read_congr _ same⟩
  rw [compile, Reading.read_congr _ same, compile]

theorem gap_divides_operator :
    tokenize "A <\t= 'b c" = ["A", "<", "=", "'", "b", "c"] ∧ tokenize "'b c'" = ["'b c'"] := by
  constructor
  · have divided := spaced_tokens_preserved.1 "A <" "\t" "= 'b c" (by decide)
      (List.forall_mem_singleton.mpr (by decide)) (.inl (by decide))
    have first : tokenize "A <" = ["A", "<"] := by decide +kernel
    have second : tokenize "= 'b c" = ["=", "'", "b", "c"] := by decide +kernel
    rwa [first, second] at divided
  · exact spaced_tokens_preserved.2.1 "A = 'b c'" "'b c'" (by decide +kernel)

end Verdict
