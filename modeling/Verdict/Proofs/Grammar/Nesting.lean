import Verdict.Proofs.Grammar.Phrase
import Verdict.Token

/-! How deep the groups of a text are nested. A phrase keeps its tokens and its tree where more
levels of groups are allowed. -/

namespace Verdict

namespace Phrase

/-- Every phrase of the one form is also one of the other, with the same tokens and tree. -/
def Embeds (Form Other : Type) [Phrase Form] [Phrase Other] : Prop :=
  ∀ form : Form, ∃ other : Other, tokens other = tokens form ∧ tree other = tree form

section Operands

variable {Group Other : Type} [Phrase Group] [Phrase Other]

theorem exists_operand (groups : Embeds Group Other) (form : Operand Group) :
    ∃ other : Operand Other,
      tokens other = tokens form ∧ tree other = tree form ∧ other.opening = form.opening := by
  cases form with
  | group inner =>
    obtain ⟨other, sameTokens, sameTree⟩ := groups inner
    refine ⟨.group other, ?_, sameTree, rfl⟩
    change "(" :: (tokens other ++ [")"]) = "(" :: (tokens inner ++ [")"])
    rw [sameTokens]
  | leaf written => exact ⟨.leaf written, rfl, rfl, rfl⟩

theorem Embeds.negation (groups : Embeds Group Other) :
    Embeds (Negation Group) (Negation Other) := by
  intro form
  cases form with
  | negated word operand =>
    obtain ⟨other, sameTokens, sameTree, -⟩ := exists_operand groups operand
    exact ⟨.negated word other, congrArg (word.token :: ·) sameTokens, congrArg Expr.not sameTree⟩
  | plain operand unnegated =>
    obtain ⟨other, sameTokens, sameTree, sameOpening⟩ := exists_operand groups operand
    exact ⟨.plain other (sameOpening ▸ unnegated), sameTokens, sameTree⟩

end Operands

section Chains

variable {connective : Connective} {Link Other : Type} [Phrase Link] [Phrase Other]

theorem exists_further (links : Embeds Link Other)
    (rest : List (Keyword connective.word × Link)) :
    ∃ further : List (Keyword connective.word × Other),
      Chain.restTokens further = Chain.restTokens rest ∧
        ∀ left, Chain.joined left further = Chain.joined left rest := by
  induction rest with
  | nil => exact ⟨[], rfl, fun left => rfl⟩
  | cons next rest ih =>
    obtain ⟨other, sameTokens, sameTree⟩ := links next.2
    obtain ⟨further, restTokens, joined⟩ := ih
    refine ⟨(next.1, other) :: further, ?_, fun left => ?_⟩
    · rw [Chain.restTokens_cons, Chain.restTokens_cons, sameTokens, restTokens]
    · change Chain.joined (connective.build left (tree other)) further =
        Chain.joined (connective.build left (tree next.2)) rest
      rw [sameTree, joined]

theorem Embeds.chain (links : Embeds Link Other) :
    Embeds (Chain connective Link) (Chain connective Other) := by
  rintro ⟨first, rest⟩
  obtain ⟨other, sameTokens, sameTree⟩ := links first
  obtain ⟨further, restTokens, joined⟩ := exists_further links rest
  refine ⟨⟨other, further⟩, ?_, ?_⟩
  · change tokens other ++ Chain.restTokens further = tokens first ++ Chain.restTokens rest
    rw [sameTokens, restTokens]
  · change Chain.joined (tree other) further = Chain.joined (tree first) rest
    rw [sameTree, joined]

end Chains

theorem sentence_embeds (levels : Nat) : Embeds (Sentence levels) (Sentence (levels + 1)) := by
  induction levels with
  | zero =>
    have groups : Embeds Empty (Sentence 0) := fun impossible => impossible.elim
    exact groups.negation.chain.chain
  | succ levels ih => exact ih.negation.chain.chain

end Phrase

def NestedWithin (levels : Nat) (text : String) : Prop :=
  ∃ sentence : Phrase.Sentence levels, Phrase.tokens sentence = tokenize text

end Verdict
