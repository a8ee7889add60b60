import Verdict.Proofs.Evaluation.Agreement
import Verdict.Proofs.Expr.Canonical
import Verdict.Proofs.Grammar.Nesting
import Verdict.Proofs.Token.Seam

/-! Rules put together as texts. In parentheses a text keeps its tokens and its tree, so the whole
compiles to the tree that joins the parts, and its value is that of the parts. -/

namespace Verdict

open Lexeme
open Phrase (Negation Sentence)

namespace Phrase

variable {levels : Nat}

def grouped (inner : Sentence levels) : Negation (Sentence levels) :=
  .plain (.group inner) (by decide : Text.sameFolded "(" "NOT" = false)

theorem exists_group (inner : Sentence levels) :
    ∃ sentence : Sentence (levels + 1),
      tokens sentence = "(" :: (tokens inner ++ [")"]) ∧
        tree sentence = tree inner := by
  refine ⟨⟨⟨grouped inner, []⟩, []⟩, ?_, rfl⟩
  change "(" :: (tokens inner ++ [")"]) ++ [] ++ [] = _
  rw [List.append_nil, List.append_nil]

theorem exists_negated_group (inner : Sentence levels) :
    ∃ sentence : Sentence (levels + 1),
      tokens sentence = "NOT" :: "(" :: (tokens inner ++ [")"]) ∧
        tree sentence = .not (tree inner) := by
  refine ⟨⟨⟨.negated ⟨"NOT", by decide⟩ (.group inner), []⟩, []⟩, ?_, rfl⟩
  change "NOT" :: ("(" :: (tokens inner ++ [")"])) ++ [] ++ [] = _
  rw [List.append_nil, List.append_nil]

theorem exists_joined_groups (connective : Connective) (first second : Sentence levels) :
    ∃ sentence : Sentence (levels + 1),
      tokens sentence =
        "(" :: (tokens first ++
          ")" :: connective.word :: "(" :: (tokens second ++ [")"])) ∧
        tree sentence = connective.build (tree first) (tree second) := by
  obtain ⟨form, formTree, formTokens⟩ := exists_pair connective (grouped first) (grouped second)
  refine ⟨form, ?_, formTree⟩
  refine formTokens.trans ?_
  change "(" :: (tokens first ++ [")"]) ++
    connective.word :: "(" :: (tokens second ++ [")"]) = _
  simp

end Phrase

variable {text left right rest : String} {tree leftTree rightTree : Expr}

theorem sentence_unique {levels : Nat} {first second : Sentence levels}
    (same : Phrase.tokens first = Phrase.tokens second) : first = second := by
  have padded : Phrase.tokens first ++ [] = Phrase.tokens second ++ [] := by rw [same]
  exact (Grammar.sentence_unambiguous levels first second Grammar.endsDisjunction_nil
    Grammar.endsDisjunction_nil padded).1

theorem exists_nested_sentence (compiled : compile text = .ok tree)
    (nested : NestedWithin 255 text) :
    ∃ sentence : Sentence 255, Phrase.tokens sentence = tokenize text ∧
      Phrase.tree sentence = tree ∧ tree.JoinedWithin maxHeight := by
  obtain ⟨sentence, shape⟩ := nested
  obtain ⟨raised, sameTokens, sameTree⟩ := Phrase.sentence_embeds 255 sentence
  obtain ⟨whole, wholeShape, wholeTree, within⟩ := sentence_of_compile compiled
  have same : raised = whole := sentence_unique (sameTokens.trans (shape.trans wholeShape.symm))
  refine ⟨sentence, shape, ?_, within⟩
  rw [← sameTree, same]
  exact wholeTree

theorem compile_eq_of_sentence {sentence : Sentence maxNesting}
    (shape : Phrase.tokens sentence = tokenize text) (same : Phrase.tree sentence = tree) :
    (tree.JoinedWithin maxHeight ∧ compile text = .ok tree) ∨
      (¬ tree.JoinedWithin maxHeight ∧ compile text = .error (.nestingTooDeep maxHeight)) := by
  subst same
  rw [compile, Reading.read_sentence _ sentence shape]
  refine (fold_tree (Phrase.tree sentence)).imp (And.imp_right ?_) (And.imp_right ?_)
  · intro built
    rw [built]
    rfl
  · intro failed
    rw [failed]
    rfl

section Texts

theorem tokenize_grouped (apart : QuotesApart left.toList (")" ++ rest).toList) :
    tokenize ("(" ++ (left ++ (")" ++ rest))) = "(" :: (tokenize left ++ ")" :: tokenize rest) := by
  rw [tokenize_parenthesis (.inl rfl),
    tokenize_seam (separated_append (.inr rfl) rest).detached apart,
    tokenize_parenthesis (.inr rfl)]

theorem tokenize_last_grouped (text : String) :
    tokenize ("(" ++ text ++ ")") = "(" :: (tokenize text ++ [")"]) := by
  have apart : QuotesApart text.toList (")" ++ "").toList := .inr (by decide)
  have whole := tokenize_grouped apart
  rw [String.append_empty, tokenize_empty] at whole
  rw [String.append_assoc, whole]

theorem tokenize_negated_group (text : String) :
    tokenize ("NOT (" ++ text ++ ")") = "NOT" :: "(" :: (tokenize text ++ [")"]) := by
  have word : "NOT (" = "NOT" ++ (" " ++ "(") := rfl
  have other : "NOT" ≠ "'" := by decide
  rw [word, ← tokenize_last_grouped, ← tokenize_space ("(" ++ text ++ ")")]
  simp only [String.append_assoc]
  exact tokenize_append shape_not (separated_append (.inl rfl) _) fun same => absurd same other

theorem tokenize_joined_groups (connective : Connective) (right : String)
    (closed : Even (left.toList.count '\'')) :
    tokenize ("(" ++ left ++ ") " ++ connective.word ++ " (" ++ right ++ ")") =
      "(" :: (tokenize left ++ ")" :: connective.word :: "(" :: (tokenize right ++ [")"])) := by
  have closing : ") " = ")" ++ " " := rfl
  have opening : " (" = " " ++ "(" := rfl
  have other : connective.word ≠ "'" := by cases connective <;> decide
  rw [closing, opening]
  simp only [String.append_assoc]
  rw [tokenize_grouped (.inl closed),
    tokenize_word connective.shape_word (separated_append (.inl rfl) _) other, tokenize_space,
    ← String.append_assoc, tokenize_last_grouped]

end Texts

section Compiled

variable (leftCompiled : compile left = .ok leftTree) (leftNested : NestedWithin 255 left)

include leftCompiled leftNested

theorem compile_enclosed (build : Expr → Expr)
    (keeps : ∀ tree : Expr, tree.JoinedWithin maxHeight → (build tree).JoinedWithin maxHeight)
    (written : ∀ inner : Sentence 255, Phrase.tokens inner = tokenize left →
      ∃ sentence : Sentence maxNesting, Phrase.tokens sentence = tokenize text ∧
        Phrase.tree sentence = build (Phrase.tree inner)) :
    compile text = .ok (build leftTree) := by
  obtain ⟨inner, innerShape, rfl, within⟩ := exists_nested_sentence leftCompiled leftNested
  obtain ⟨sentence, shape, same⟩ := written inner innerShape
  rcases compile_eq_of_sentence shape same with ⟨-, compiled⟩ | ⟨beyond, -⟩
  · exact compiled
  · exact absurd (keeps _ within) beyond

theorem compile_group : compile ("(" ++ left ++ ")") = .ok leftTree := by
  refine compile_enclosed leftCompiled leftNested (fun tree => tree) (fun _ within => within) ?_
  intro inner shape
  rw [tokenize_last_grouped, ← shape]
  exact Phrase.exists_group inner

theorem compile_negated_group : compile ("NOT (" ++ left ++ ")") = .ok (.not leftTree) := by
  refine compile_enclosed leftCompiled leftNested Expr.not (fun _ within => within) ?_
  intro inner shape
  rw [tokenize_negated_group, ← shape]
  exact Phrase.exists_negated_group inner

variable (rightCompiled : compile right = .ok rightTree) (rightNested : NestedWithin 255 right)
  (closed : Even (left.toList.count '\'')) (connective : Connective)

include rightCompiled rightNested closed

theorem exists_joined_sentence :
    ∃ sentence : Sentence maxNesting,
      Phrase.tokens sentence =
        tokenize ("(" ++ left ++ ") " ++ connective.word ++ " (" ++ right ++ ")") ∧
      Phrase.tree sentence = connective.build leftTree rightTree ∧
      leftTree.JoinedWithin maxHeight ∧ rightTree.JoinedWithin maxHeight := by
  obtain ⟨first, firstShape, rfl, firstWithin⟩ := exists_nested_sentence leftCompiled leftNested
  obtain ⟨second, secondShape, rfl, secondWithin⟩ :=
    exists_nested_sentence rightCompiled rightNested
  obtain ⟨sentence, shape, same⟩ := Phrase.exists_joined_groups connective first second
  rw [firstShape, secondShape, ← tokenize_joined_groups connective right closed] at shape
  exact ⟨sentence, shape, same, firstWithin, secondWithin⟩

theorem compile_joined_groups :
    compile ("(" ++ left ++ ") " ++ connective.word ++ " (" ++ right ++ ")") =
      if max leftTree.height rightTree.height + 1 ≤ maxHeight then
        .ok (connective.build leftTree rightTree)
      else
        .error (.nestingTooDeep maxHeight) := by
  obtain ⟨sentence, shape, same, leftWithin, rightWithin⟩ := exists_joined_sentence
    leftCompiled leftNested rightCompiled rightNested closed connective
  rcases compile_eq_of_sentence shape same with ⟨within, compiled⟩ | ⟨beyond, failed⟩
  · rw [if_pos (Expr.joinedWithin_build.mp within).2.2, compiled]
  · have tooHigh : ¬ max leftTree.height rightTree.height + 1 ≤ maxHeight := fun fits =>
      beyond (Expr.joinedWithin_build.mpr ⟨leftWithin, rightWithin, fits⟩)
    rw [if_neg tooHigh, failed]

theorem evaluate_joined_groups (bindings : Bindings) :
    evaluate bindings ("(" ++ left ++ ") " ++ connective.word ++ " (" ++ right ++ ")") =
      (connective.build leftTree rightTree).evaluate bindings := by
  obtain ⟨sentence, shape, same, -⟩ := exists_joined_sentence
    leftCompiled leftNested rightCompiled rightNested closed connective
  rw [evaluate, Reading.read_sentence _ sentence shape, same, fold_value]

end Compiled

/-- Compiled texts in parentheses compile to their trees, negated or joined ones to the negated or
joined trees unless these are too high, and the value of the whole comes from the values of the
parts from left to right. -/
theorem grouped_texts_compose (leftCompiled : compile left = .ok leftTree)
    (rightCompiled : compile right = .ok rightTree) (leftNested : NestedWithin 255 left)
    (rightNested : NestedWithin 255 right) (closed : Even (left.toList.count '\'')) :
    compile ("(" ++ left ++ ")") = .ok leftTree ∧
    compile ("NOT (" ++ left ++ ")") = .ok (.not leftTree) ∧
    (∀ connective : Connective,
      compile ("(" ++ left ++ ") " ++ connective.word ++ " (" ++ right ++ ")") =
        if max leftTree.height rightTree.height + 1 ≤ maxHeight then
          .ok (connective.build leftTree rightTree)
        else
          .error (.nestingTooDeep maxHeight)) ∧
    ∀ bindings : Bindings,
      evaluate bindings ("(" ++ left ++ ") AND (" ++ right ++ ")") = (do
        let leftValue ← evaluate bindings left
        let rightValue ← evaluate bindings right
        return leftValue && rightValue) ∧
      evaluate bindings ("(" ++ left ++ ") OR (" ++ right ++ ")") = (do
        let leftValue ← evaluate bindings left
        let rightValue ← evaluate bindings right
        return leftValue || rightValue) := by
  refine ⟨compile_group leftCompiled leftNested, compile_negated_group leftCompiled leftNested,
    compile_joined_groups leftCompiled leftNested rightCompiled rightNested closed, ?_⟩
  intro bindings
  have values := fun connective => evaluate_joined_groups leftCompiled leftNested rightCompiled
    rightNested closed connective bindings
  rw [evaluate_of_compile leftCompiled, evaluate_of_compile rightCompiled]
  constructor
  · have between : ") AND (" = ") " ++ Connective.and.word ++ " (" := rfl
    rw [between, ← String.append_assoc, ← String.append_assoc]
    exact values .and
  · have between : ") OR (" = ") " ++ Connective.or.word ++ " (" := rfl
    rw [between, ← String.append_assoc, ← String.append_assoc]
    exact values .or

theorem nestedWithin_leaf (levels : Nat) (leaf : Phrase.Leaf)
    (unnegated : Text.sameFolded leaf.name "NOT" = false) (shape : leaf.tokens = tokenize text) :
    NestedWithin levels text := by
  obtain ⟨sentence, tokens, -⟩ := Phrase.exists_sentence levels
    ⟨⟨.plain (.leaf leaf) unnegated, []⟩, []⟩
  refine ⟨sentence, tokens.trans ?_⟩
  change leaf.tokens ++ [] ++ [] = _
  rw [List.append_nil, List.append_nil, shape]

theorem quoted_parenthesis_composes :
    compile "(A = ')') OR (B = ')" =
        .ok (.or (.atom (.compare "A" .equal (.string ")")))
          (.atom (.compare "B" .equal (.string "'")))) ∧
      compile "NOT (A = ')')" = .ok (.not (.atom (.compare "A" .equal (.string ")")))) := by
  have closing : tokenize "A = ')'" = ["A", "=", "')'"] := by decide +kernel
  have unclosed : tokenize "B = '" = ["B", "=", "'"] := by decide +kernel
  let first : Phrase.Leaf := ⟨"A", by decide, .compare .equal "')'"⟩
  let second : Phrase.Leaf := ⟨"B", by decide, .compare .equal "'"⟩
  have firstPlain : Text.sameFolded "A" "NOT" = false := by decide
  have secondPlain : Text.sameFolded "B" "NOT" = false := by decide
  have composed := grouped_texts_compose (compile_leaf first firstPlain closing.symm)
    (compile_leaf second secondPlain unclosed.symm)
    (nestedWithin_leaf 255 first firstPlain closing.symm)
    (nestedWithin_leaf 255 second secondPlain unclosed.symm) (by decide)
  exact ⟨composed.2.2.1 .or, composed.2.1⟩

end Verdict
