import Verdict.Proofs.Grammar.Recognition

/-!
The grammar is unambiguous: the tokens of a phrase, followed by what ends it, determine the phrase.
-/

namespace Verdict

namespace Grammar

open Phrase (Keyword Leaf Condition Operand Negation Chain Conjunction Disjunction Sentence)

/-- Phrases of one form are told apart by their tokens, whatever ends them. -/
def Unambiguous (Form : Type) [Phrase Form] (Follow : List String → Prop) : Prop :=
  ∀ (left right : Form) {leftRest rightRest : List String}, Follow leftRest → Follow rightRest →
    Phrase.tokens left ++ leftRest = Phrase.tokens right ++ rightRest →
      left = right ∧ leftRest = rightRest

theorem condition_eq {name : String} {left right : Condition} (tokens : left.tokens = right.tokens)
    (atoms : left.atom name = right.atom name) : left = right := by
  cases left with
  | bare => cases right <;> simp_all [Condition.atom]
  | absent null =>
    cases right with
    | absent other =>
      simp only [Condition.tokens, List.cons.injEq, and_true] at tokens
      rw [Keyword.eq_of_token tokens]
    | _ => simp [Condition.atom] at atoms
  | present negation null =>
    cases right with
    | present other otherNull =>
      simp only [Condition.tokens, List.cons.injEq, and_true] at tokens
      rw [Keyword.eq_of_token tokens.1, Keyword.eq_of_token tokens.2]
    | _ => simp [Condition.atom] at atoms
  | compare operator literal =>
    cases right with
    | compare other otherLiteral =>
      simp only [Condition.tokens, List.cons.injEq, and_true] at tokens
      simp only [Condition.atom, Atom.compare.injEq] at atoms
      rw [atoms.2.1, tokens.2]
    | _ => simp [Condition.atom] at atoms

theorem leaf_unambiguous {left right : Leaf} {leftRest rightRest : List String}
    (leftEnds : EndsOperand leftRest) (rightEnds : EndsOperand rightRest)
    (same : left.tokens ++ leftRest = right.tokens ++ rightRest) :
    left = right ∧ leftRest = rightRest := by
  have read := atom_leaf left leftEnds
  rw [same, atom_leaf right rightEnds] at read
  obtain ⟨atoms, rests⟩ := Prod.mk.inj (Except.ok.inj read.symm)
  subst rests
  refine ⟨?_, rfl⟩
  obtain ⟨names, tokens⟩ := List.cons.inj (List.append_cancel_right same)
  obtain ⟨name, notOpening, condition⟩ := left
  obtain ⟨otherName, _, otherCondition⟩ := right
  cases names
  obtain rfl : condition = otherCondition := condition_eq tokens atoms
  rfl

section Operands

variable {Group : Type} [Phrase Group]

theorem operand_unambiguous (groups : Unambiguous Group EndsDisjunction) :
    Unambiguous (Operand Group) EndsOperand := by
  intro left right leftRest rightRest leftEnds rightEnds same
  cases left with
  | group inner =>
    cases right with
    | group other =>
      simp only [Phrase.tokens, List.cons_append, List.append_assoc, List.nil_append,
        List.cons.injEq, true_and] at same
      obtain ⟨rfl, rests⟩ :=
        groups inner other (endsDisjunction_closing _) (endsDisjunction_closing _) same
      exact ⟨rfl, (List.cons.inj rests).2⟩
    | leaf written =>
      exact (written.notOpening (List.cons.inj same).1.symm).elim
  | leaf written =>
    cases right with
    | group other =>
      exact (written.notOpening (List.cons.inj same).1).elim
    | leaf other =>
      obtain ⟨rfl, rests⟩ := leaf_unambiguous leftEnds rightEnds same
      exact ⟨rfl, rests⟩

theorem negation_unambiguous (groups : Unambiguous Group EndsDisjunction) :
    Unambiguous (Negation Group) EndsOperand := by
  intro left right leftRest rightRest leftEnds rightEnds same
  have clash : ∀ (keyword : Keyword "NOT") (operand : Operand Group) (rest tail : List String),
      Text.sameFolded operand.opening "NOT" = false →
        keyword.token :: tail ≠ Phrase.tokens operand ++ rest := by
    intro keyword operand rest tail other equal
    have taken := takeWord_keyword keyword tail
    rw [equal, (takeWord_operand operand rest).mpr other] at taken
    cases taken
  cases left with
  | negated keyword operand =>
    cases right with
    | negated otherKeyword other =>
      obtain ⟨tokens, rest⟩ := List.cons.inj same
      obtain ⟨rfl, rests⟩ := operand_unambiguous groups operand other leftEnds rightEnds rest
      rw [Keyword.eq_of_token tokens]
      exact ⟨rfl, rests⟩
    | plain other unnegated => exact (clash keyword other rightRest _ unnegated same).elim
  | plain operand unnegated =>
    cases right with
    | negated keyword other => exact (clash keyword operand leftRest _ unnegated same.symm).elim
    | plain other _ =>
      obtain ⟨rfl, rests⟩ := operand_unambiguous groups operand other leftEnds rightEnds same
      exact ⟨rfl, rests⟩

end Operands

section Chains

variable {connective : Connective} {Link : Type} [Phrase Link] {EndsLink : List String → Prop}

theorem restTokens_unambiguous (links : Unambiguous Link EndsLink)
    (goesOn : ∀ (keyword : Keyword connective.word) tail, EndsLink (keyword.token :: tail))
    {leftRest rightRest : List String} (leftEnds : EndsChain connective EndsLink leftRest)
    (rightEnds : EndsChain connective EndsLink rightRest)
    (left right : List (Keyword connective.word × Link))
    (same : Chain.restTokens left ++ leftRest = Chain.restTokens right ++ rightRest) :
    left = right ∧ leftRest = rightRest := by
  have clash : ∀ (keyword : Keyword connective.word) (rest tail : List String),
      EndsChain connective EndsLink rest → keyword.token :: tail ≠ rest := by
    intro keyword rest tail ends equal
    have absent := ends.2
    rw [← equal, takeWord_keyword] at absent
    cases absent
  induction left generalizing right with
  | nil =>
    cases right with
    | nil => exact ⟨rfl, same⟩
    | cons next right =>
      rw [Chain.restTokens_cons] at same
      exact (clash next.1 leftRest _ leftEnds same.symm).elim
  | cons next left ih =>
    cases right with
    | nil =>
      rw [Chain.restTokens_cons] at same
      exact (clash next.1 rightRest _ rightEnds same).elim
    | cons other right =>
      simp only [Chain.restTokens_cons, List.cons_append, List.append_assoc] at same
      obtain ⟨tokens, tails⟩ := List.cons.inj same
      obtain ⟨forms, rests⟩ := links next.2 other.2 (endsLink_restTokens goesOn left leftEnds)
        (endsLink_restTokens goesOn right rightEnds) tails
      obtain ⟨rfl, ends⟩ := ih right rests
      rw [Prod.ext (Keyword.eq_of_token tokens) forms]
      exact ⟨rfl, ends⟩

theorem chain_unambiguous (links : Unambiguous Link EndsLink)
    (goesOn : ∀ (keyword : Keyword connective.word) tail, EndsLink (keyword.token :: tail)) :
    Unambiguous (Chain connective Link) (EndsChain connective EndsLink) := by
  intro left right leftRest rightRest leftEnds rightEnds same
  obtain ⟨first, further⟩ := left
  obtain ⟨otherFirst, otherFurther⟩ := right
  simp only [Phrase.tokens, List.append_assoc] at same
  obtain ⟨rfl, rests⟩ := links first otherFirst (endsLink_restTokens goesOn further leftEnds)
    (endsLink_restTokens goesOn otherFurther rightEnds) same
  obtain ⟨rfl, ends⟩ :=
    restTokens_unambiguous links goesOn leftEnds rightEnds further otherFurther rests
  exact ⟨rfl, ends⟩

end Chains

theorem disjunction_unambiguous {Group : Type} [Phrase Group]
    (groups : Unambiguous Group EndsDisjunction) :
    Unambiguous (Disjunction Group) EndsDisjunction :=
  chain_unambiguous (chain_unambiguous (negation_unambiguous groups) endsAtom_connective)
    endsConjunction_or

theorem sentence_unambiguous (levels : Nat) : Unambiguous (Sentence levels) EndsDisjunction := by
  induction levels with
  | zero =>
    have groups : Unambiguous Empty EndsDisjunction := fun empty => empty.elim
    exact disjunction_unambiguous groups
  | succ levels ih => exact disjunction_unambiguous ih

end Grammar

end Verdict
