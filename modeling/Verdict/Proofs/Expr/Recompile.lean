import Verdict.Proofs.Decimal.Order
import Verdict.Proofs.Expr.Reread

/-! When the canonical text of a compiled tree compiles to an equal tree. -/

namespace Verdict

open Lexeme
open Grammar (EndsOperand)
open Phrase (Condition Operand Negation Chain Disjunction Sentence Keyword Inside)

def Shaped (tokens : List String) : Prop :=
  ∀ token ∈ tokens, Shape token.toList

theorem Shaped.front {front back : List String} (shaped : Shaped (front ++ back)) : Shaped front :=
  (List.forall_mem_append.mp shaped).1

theorem Shaped.back {front back : List String} (shaped : Shaped (front ++ back)) : Shaped back :=
  (List.forall_mem_append.mp shaped).2

theorem Shaped.tail {token : String} {tokens : List String} (shaped : Shaped (token :: tokens)) :
    Shaped tokens :=
  (List.forall_mem_cons.mp shaped).2

theorem Expr.WellNamed.weaken {tree : Expr} {negated : Bool} (named : tree.WellNamed false) :
    tree.WellNamed negated := by
  cases tree with
  | atom leaf => exact ⟨named.1, fun _ => named.2 rfl⟩
  | not inner => exact named
  | and left right => exact named
  | or left right => exact named

section Named

variable {Group : Type} [Phrase Group]

def NamedBy (Form : Type) [Phrase Form] : Prop :=
  ∀ form : Form, Shaped (Phrase.tokens form) → (Phrase.tree form).WellNamed false

theorem operand_named (groups : NamedBy Group) (operand : Operand Group) (negated : Bool)
    (shaped : Shaped (Phrase.tokens operand))
    (plain : negated = false → Text.sameFolded operand.opening "NOT" = false) :
    (Phrase.tree operand).WellNamed negated := by
  cases operand with
  | group inner => exact (groups inner shaped.tail.front).weaken
  | leaf written =>
    have name : (written.condition.atom written.name).name = written.name :=
      Condition.name_atom _ _
    have shape : Shape written.name.toList := shaped written.name List.mem_cons_self
    rw [← name] at shape
    refine ⟨⟨shape, ?_⟩, ?_⟩
    · exact fun opening => written.notOpening (name.symm.trans opening)
    · intro notNegated
      exact (congrArg (Text.sameFolded · "NOT") name).trans (plain notNegated)

theorem negation_named (groups : NamedBy Group) : NamedBy (Negation Group) := by
  intro form shaped
  cases form with
  | negated word operand =>
    exact operand_named groups operand true shaped.tail fun positive => Bool.noConfusion positive
  | plain operand other => exact operand_named groups operand false shaped fun _ => other

theorem joined_named {connective : Connective} {Link : Type} [Phrase Link] (links : NamedBy Link)
    {left : Expr} {rest : List (Keyword connective.word × Link)} (leftNamed : left.WellNamed false)
    (shaped : Shaped (Chain.restTokens rest)) : (Chain.joined left rest).WellNamed false := by
  induction rest generalizing left with
  | nil => exact leftNamed
  | cons link rest ih =>
    rw [Chain.restTokens_cons] at shaped
    have linkNamed := links link.2 shaped.tail.front
    exact ih (Expr.wellNamed_build.mpr ⟨leftNamed, linkNamed⟩) shaped.tail.back

theorem chain_named {connective : Connective} {Link : Type} [Phrase Link] (links : NamedBy Link) :
    NamedBy (Chain connective Link) := by
  intro chain shaped
  exact joined_named links (links chain.first shaped.front) shaped.back

theorem sentence_named (levels : Nat) : NamedBy (Sentence levels) := by
  induction levels with
  | zero => exact chain_named (chain_named (negation_named fun form => form.elim))
  | succ levels ih => exact chain_named (chain_named (negation_named ih))

end Named

theorem compile_named {text : String} {tree : Expr} (compiled : compile text = .ok tree) :
    tree.WellNamed false := by
  obtain ⟨sentence, shape, rfl, -⟩ := sentence_of_compile compiled
  apply sentence_named maxNesting sentence
  intro token member
  rw [shape] at member
  exact shape_of_mem_tokenize member

theorem Value.Restorable.beq_self {value : Value} (restorable : value.Restorable) :
    (value == value) = true := by
  cases value with
  | boolean truth => exact beq_self_eq_true truth
  | integer number => exact beq_self_eq_true number
  | float number => exact Decimal.beq_self (Decimal.isNaN_isInf_of_isFinite restorable).1
  | string text => exact beq_self_eq_true text

theorem Atom.Restorable.beq_self {leaf : Atom} {later : Bool} (restorable : leaf.Restorable later) :
    (leaf == leaf) = true := by
  cases leaf with
  | compare name operator value =>
    have literal := (restorable.literal name operator value rfl).beq_self
    change (name == name && (operator == operator && value == value)) = true
    rw [literal, beq_self_eq_true, beq_self_eq_true]
    rfl
  | absent name => exact beq_self_eq_true name
  | present name => exact beq_self_eq_true name
  | bare name => exact beq_self_eq_true name

theorem Expr.Restorable.beq_self {tree : Expr} {levels : Nat} {later : Bool}
    (restorable : tree.Restorable levels later) : (tree == tree) = true := by
  induction tree using connectiveInduction generalizing levels later with
  | atom leaf => exact Atom.Restorable.beq_self restorable
  | not inner ih => exact ih restorable.2
  | joined connective left right leftIh rightIh =>
    obtain ⟨below, -, leftRestorable, rightRestorable⟩ := restorable_build.mp restorable
    have both : (left == left && right == right) = true := by
      rw [leftIh leftRestorable, rightIh rightRestorable]
      rfl
    cases connective <;> exact both

theorem compile_render {tree : Expr} (named : tree.WellNamed false)
    (within : tree.JoinedWithin maxHeight) (restorable : tree.Restorable maxNesting false) :
    compile tree.render = .ok tree := by
  obtain ⟨negation, treeEq, tokens⟩ := (Expr.exists_writes restorable).2 named
  obtain ⟨sentence, sentenceTokens, sentenceTree⟩ :=
    Phrase.exists_sentence maxNesting ⟨⟨negation, []⟩, []⟩
  have whole := tokens "" separated_nil fun quote => Bool.noConfusion quote
  have shape : Phrase.tokens sentence = tokenize tree.render := by
    rw [String.append_empty, tokenize_empty, List.append_nil] at whole
    rw [sentenceTokens, whole]
    change Phrase.tokens negation ++ [] ++ [] = _
    rw [List.append_nil, List.append_nil]
  have same : Phrase.tree sentence = tree := sentenceTree.trans treeEq
  rw [← same] at within
  exact (compile_sentence sentence shape within).trans (congrArg Except.ok same)

theorem restorable_of_recompiled {tree again : Expr} (named : tree.WellNamed false)
    (recompiled : compile tree.render = .ok again) (same : (again == tree) = true) :
    tree.Restorable maxNesting false := by
  obtain ⟨sentence, shape, rfl, -⟩ := sentence_of_compile recompiled
  obtain ⟨form, formTokens, formTree⟩ := Phrase.exists_disjunction maxNesting sentence
  obtain ⟨first, links, tokens, atoms, -⟩ := Phrase.exists_links form
  have ends : EndsOperand (Phrase.Link.tokens links) := by
    rw [← List.append_nil (Phrase.Link.tokens links)]
    exact endsOperand_links links rfl
  have read : Phrase.tokens first ++ Phrase.Link.tokens links = tokenize (tree.render ++ "") := by
    rw [← tokens, formTokens, shape, String.append_empty]
  have restEnds : EndsOperand (tokenize "") := by
    rw [tokenize_empty]
    rfl
  have separated : Separated "".toList := separated_nil
  -- The whole text is compared with a phrase that may go on; links after the first operand are then
  -- of no use, for a clash in front of them is not undone.
  rcases tree.reread.2 named _ first separated restEnds ends read with ⟨restorable, -, -⟩ | clash
  · exact restorable
  · have differ := clash.append (Phrase.Link.atoms links) []
    rw [← atoms, formTree, List.append_nil] at differ
    exact absurd (differ.not_beq.symm.trans same) Bool.false_ne_true

/-- The canonical text of a compiled tree compiles to an equal tree exactly when the tree can be
restored. -/
theorem recompiles_iff_restorable (text : String) (tree : Expr)
    (compiled : compile text = .ok tree) :
    (∃ again, compile tree.render = .ok again ∧ (again == tree) = true) ↔
      tree.Restorable maxNesting false := by
  have named := compile_named compiled
  constructor
  · rintro ⟨again, recompiled, same⟩
    exact restorable_of_recompiled named recompiled same
  · intro restorable
    obtain ⟨-, -, -, within⟩ := sentence_of_compile compiled
    exact ⟨tree, compile_render named within restorable, restorable.beq_self⟩

theorem disjunction_recompiles :
    compile "A OR B" = .ok (.or (.atom (.bare "A")) (.atom (.bare "B"))) ∧
      ∃ again, compile (Expr.or (.atom (.bare "A")) (.atom (.bare "B"))).render = .ok again ∧
        (again == .or (.atom (.bare "A")) (.atom (.bare "B"))) = true := by
  have written : tokenize "A OR B" = ["A", "OR", "B"] := by decide +kernel
  let first : Negation (Sentence 255) := .plain (.leaf ⟨"A", by decide, .bare⟩) rfl
  let second : Negation (Sentence 255) := .plain (.leaf ⟨"B", by decide, .bare⟩) rfl
  let form : Disjunction (Sentence 255) := ⟨⟨first, []⟩, [(⟨"OR", by decide⟩, ⟨second, []⟩)]⟩
  have compiled : compile "A OR B" = .ok (.or (.atom (.bare "A")) (.atom (.bare "B"))) := by
    have within : (Phrase.tree form).JoinedWithin maxHeight := ⟨trivial, trivial, by decide⟩
    exact compile_sentence form (by rw [written]; rfl) within
  have restorable : ∀ name later, name ≠ "'" → (Atom.bare name).Restorable later := by
    intro name later other
    refine ⟨fun lone => absurd lone other, ?_⟩
    intro _ _ _ comparison
    cases comparison
  exact ⟨compiled, (recompiles_iff_restorable _ _ compiled).mpr
    ⟨restorable "A" _ (by decide), restorable "B" _ (by decide)⟩⟩

theorem double_negation_not_recompiled :
    compile "NOT (NOT A)" = .ok (.not (.not (.atom (.bare "A")))) ∧
      (Expr.not (.not (.atom (.bare "A")))).render = "NOT NOT A" ∧
      compile "NOT NOT A" = .error (.unknownOperator "A") := by
  have written : tokenize "NOT (NOT A)" = ["NOT", "(", "NOT", "A", ")"] := by decide +kernel
  have rendered : tokenize "NOT NOT A" = ["NOT", "NOT", "A"] := by decide +kernel
  let inner : Disjunction (Sentence 254) :=
    ⟨⟨.negated ⟨"NOT", by decide⟩ (.leaf ⟨"A", by decide, .bare⟩), []⟩, []⟩
  let outer : Disjunction (Sentence 255) := ⟨⟨.negated ⟨"NOT", by decide⟩ (.group inner), []⟩, []⟩
  refine ⟨?_, rfl, ?_⟩
  · exact compile_sentence outer (by rw [written]; rfl) trivial
  · unfold compile Reading.read
    rw [rendered]
    rfl

end Verdict
