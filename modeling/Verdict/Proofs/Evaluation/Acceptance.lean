import Verdict.Evaluation
import Verdict.Proofs.Grammar.Unambiguity

/-!
What a rule text compiles to and evaluates to, by the sentence that it is: `Reading.read_eq_ok_iff`
holds of every reading, `compile_accepts_grammar` of trees.
-/

namespace Verdict

open Phrase (Sentence)

namespace Reading

variable {α : Type} (reading : Reading α)

theorem read_eq_ok_iff {text : String} {value : α} :
    reading.read text = .ok value ↔
      ∃ sentence : Sentence maxNesting, Phrase.tokens sentence = tokenize text ∧
        reading.fold (Phrase.tree sentence) = .ok value := by
  have recognizes := Grammar.expression_recognizes reading maxNesting
  unfold read
  constructor
  · intro found
    obtain ⟨⟨first, rest⟩, ran, finished⟩ := Fallible.bind_eq_ok_iff.mp found
    obtain ⟨sentence, shape, folded⟩ := recognizes.sound ran
    cases rest with
    | nil =>
      cases finished
      exact ⟨sentence, by simpa using shape.symm, folded⟩
    | cons token rest => cases finished
  · rintro ⟨sentence, shape, folded⟩
    have ran := recognizes.complete sentence Grammar.endsDisjunction_nil
    rw [List.append_nil, shape, folded] at ran
    rw [ran]
    rfl

theorem read_sentence {text : String} (sentence : Sentence maxNesting)
    (shape : Phrase.tokens sentence = tokenize text) :
    reading.read text = reading.fold (Phrase.tree sentence) := by
  have ran := (Grammar.expression_recognizes reading maxNesting).complete sentence
    Grammar.endsDisjunction_nil
  rw [List.append_nil, shape] at ran
  unfold read
  rw [ran]
  cases reading.fold (Phrase.tree sentence) <;> rfl

end Reading

theorem fold_value (bindings : Bindings) (tree : Expr) :
    (Reading.value bindings).fold tree = tree.evaluate bindings := by
  induction tree with
  | atom leaf => rfl
  | not inner ih =>
    simp only [Reading.fold, Expr.evaluate, ih]
    rfl
  | and left right leftIh rightIh =>
    simp only [Reading.fold, Expr.evaluate, leftIh, rightIh]
    rfl
  | or left right leftIh rightIh =>
    simp only [Reading.fold, Expr.evaluate, leftIh, rightIh]
    rfl

def Expr.JoinedWithin (limit : Nat) : Expr → Prop
  | .atom _ => True
  | .not inner => inner.JoinedWithin limit
  | .and left right =>
    left.JoinedWithin limit ∧ right.JoinedWithin limit ∧ (Expr.and left right).height ≤ limit
  | .or left right =>
    left.JoinedWithin limit ∧ right.JoinedWithin limit ∧ (Expr.or left right).height ≤ limit

theorem Expr.joinedWithin_build {limit : Nat} {connective : Connective} {left right : Expr} :
    (connective.build left right).JoinedWithin limit ↔
      left.JoinedWithin limit ∧ right.JoinedWithin limit ∧
        max left.height right.height + 1 ≤ limit := by
  cases connective <;> exact Iff.rfl

theorem combine_tree (connective : Connective) (left right : Subtree) :
    connective.combine Reading.tree left right =
      if max left.height right.height + 1 ≤ maxHeight then
        .ok {
          tree := connective.build left.tree right.tree
          height := max left.height right.height + 1 }
      else
        .error (.nestingTooDeep maxHeight) := by
  have same : connective.combine Reading.tree left right =
      Subtree.join connective.build left right := by
    cases connective <;> rfl
  rw [same, Subtree.join]
  by_cases within : max left.height right.height + 1 ≤ maxHeight
  · rw [if_pos within]
    exact if_neg (Nat.not_lt.mpr within)
  · rw [if_neg within]
    exact if_pos (Nat.not_le.mp within)

theorem fold_tree (tree : Expr) :
    (tree.JoinedWithin maxHeight ∧
        Reading.tree.fold tree = .ok { tree := tree, height := tree.height }) ∨
      (¬tree.JoinedWithin maxHeight ∧
        Reading.tree.fold tree = .error (.nestingTooDeep maxHeight)) := by
  induction tree using Expr.connectiveInduction with
  | atom leaf => exact .inl ⟨trivial, rfl⟩
  | not inner ih =>
    rcases ih with ⟨within, built⟩ | ⟨beyond, failed⟩
    · refine .inl ⟨within, ?_⟩
      rw [Reading.fold, built]
      rfl
    · refine .inr ⟨beyond, ?_⟩
      rw [Reading.fold, failed]
      rfl
  | joined connective left right leftIh rightIh =>
    rw [Expr.joinedWithin_build, Grammar.fold_build]
    rcases leftIh with ⟨leftWithin, leftBuilt⟩ | ⟨leftBeyond, leftFailed⟩
    · rcases rightIh with ⟨rightWithin, rightBuilt⟩ | ⟨rightBeyond, rightFailed⟩
      · have combined := combine_tree connective { tree := left, height := left.height }
          { tree := right, height := right.height }
        rw [leftBuilt, rightBuilt]
        by_cases within : max left.height right.height + 1 ≤ maxHeight
        · rw [if_pos within] at combined
          refine .inl ⟨⟨leftWithin, rightWithin, within⟩, combined.trans ?_⟩
          cases connective <;> rfl
        · rw [if_neg within] at combined
          exact .inr ⟨fun joined => within joined.2.2, combined⟩
      · refine .inr ⟨fun joined => rightBeyond joined.2.1, ?_⟩
        rw [leftBuilt, rightFailed]
        rfl
    · refine .inr ⟨fun joined => leftBeyond joined.1, ?_⟩
      rw [leftFailed]
      rfl

theorem compile_sentence {text : String} (sentence : Sentence maxNesting)
    (shape : Phrase.tokens sentence = tokenize text)
    (within : (Phrase.tree sentence).JoinedWithin maxHeight) :
    compile text = .ok (Phrase.tree sentence) := by
  rw [compile, Reading.read_sentence _ sentence shape]
  rcases fold_tree (Phrase.tree sentence) with ⟨-, built⟩ | ⟨beyond, -⟩
  · rw [built]
    rfl
  · exact absurd within beyond

theorem compile_leaf {text : String} (leaf : Phrase.Leaf)
    (unnegated : Text.sameFolded leaf.name "NOT" = false) (shape : leaf.tokens = tokenize text) :
    compile text = .ok (.atom leaf.atom) := by
  let sentence : Sentence maxNesting := ⟨⟨.plain (.leaf leaf) unnegated, []⟩, []⟩
  have tokens : Phrase.tokens sentence = tokenize text := by
    change leaf.tokens ++ [] ++ [] = _
    rw [List.append_nil, List.append_nil, shape]
  exact compile_sentence sentence tokens trivial

theorem sentence_of_compile {text : String} {tree : Expr} (compiled : compile text = .ok tree) :
    ∃ sentence : Sentence maxNesting, Phrase.tokens sentence = tokenize text ∧
      Phrase.tree sentence = tree ∧ tree.JoinedWithin maxHeight := by
  obtain ⟨subtree, read, same⟩ := Fallible.bind_eq_ok_iff.mp compiled
  obtain ⟨sentence, shape, folded⟩ := Reading.tree.read_eq_ok_iff.mp read
  obtain rfl := Except.ok.inj same
  rcases fold_tree (Phrase.tree sentence) with ⟨within, built⟩ | ⟨-, failed⟩
  · obtain rfl := Except.ok.inj (built.symm.trans folded)
    exact ⟨sentence, shape, rfl, within⟩
  · rw [failed] at folded
    cases folded

/-- Compiling accepts exactly the sentences of the grammar whose conjunctions and disjunctions are
not too high, and a text is a sentence in at most one way. -/
theorem compile_accepts_grammar (text : String) (tree : Expr) :
    (compile text = .ok tree ↔
      (∃ sentence : Sentence maxNesting,
        Phrase.tokens sentence = tokenize text ∧ Phrase.tree sentence = tree) ∧
      tree.JoinedWithin maxHeight) ∧
    ∀ left right : Sentence maxNesting, Phrase.tokens left = tokenize text →
      Phrase.tokens right = tokenize text → left = right := by
  refine ⟨⟨?_, ?_⟩, ?_⟩
  · intro compiled
    obtain ⟨sentence, shape, same, within⟩ := sentence_of_compile compiled
    exact ⟨⟨sentence, shape, same⟩, within⟩
  · rintro ⟨⟨sentence, shape, rfl⟩, within⟩
    exact compile_sentence sentence shape within
  · intro left right leftShape rightShape
    have same : Phrase.tokens left ++ [] = Phrase.tokens right ++ [] := by
      rw [leftShape, rightShape]
    exact (Grammar.sentence_unambiguous maxNesting left right Grammar.endsDisjunction_nil
      Grammar.endsDisjunction_nil same).1

end Verdict
