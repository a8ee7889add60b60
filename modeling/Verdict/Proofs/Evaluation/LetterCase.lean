import Mathlib.Data.List.Zip
import Verdict.Proofs.Evaluation.Agreement
import Verdict.Proofs.Grammar.Respelling

/-! Texts whose tokens are pairwise the same but for the case of their letters. They have the same
fault or trees of the same form, in which each name and text keeps the spelling of its own text. -/

namespace Verdict

open Grammar (Alike Folds Impartial)

variable {Pair : String → String → Prop} {text other : String}

structure Subtree.Respelled (Pair : String → String → Prop) (left right : Subtree) : Prop where
  trees : left.tree.Respelled Pair right.tree
  heights : left.height = right.height

theorem impartial_tree (Pair : String → String → Prop) :
    Impartial Pair Reading.tree (Subtree.Respelled Pair) where
  atom leaves := .ok ⟨.atom leaves, rfl⟩
  negate same := ⟨.not same.trees, congrArg (· + 1) same.heights⟩
  combine := by
    intro connective left right otherLeft otherRight lefts rights
    rw [combine_tree, combine_tree, lefts.heights, rights.heights]
    split
    · refine .ok ⟨?_, rfl⟩
      cases connective with
      | and => exact .and lefts.trees rights.trees
      | or => exact .or lefts.trees rights.trees
    · exact .error (.nestingTooDeep maxHeight)

def Counterparts (tokens others : List String) (token other : String) : Prop :=
  (token, other) ∈ tokens.zip others ∧ Text.sameFolded token other = true

theorem forall₂_counterparts {tokens others : List String}
    (same : List.Forall₂ (Text.sameFolded · · = true) tokens others) :
    List.Forall₂ (Counterparts tokens others) tokens others := by
  obtain ⟨lengths, pairs⟩ := List.forall₂_iff_zip.mp same
  exact List.forall₂_iff_zip.mpr ⟨lengths, fun member => ⟨member, pairs member⟩⟩

theorem compile_alike (folds : Folds Pair)
    (pairs : List.Forall₂ Pair (tokenize text) (tokenize other)) :
    Alike Pair (Expr.Respelled Pair) (compile text) (compile other) :=
  (Reading.read_alike folds (impartial_tree Pair) pairs).bind fun _ _ _ same => .ok same.trees

/-- The case of letters decides nothing. Two texts with the same tokens but for case are refused
with the same fault, or have trees that differ in the spelling of their names and texts alone. -/
theorem compile_respelled
    (same : List.Forall₂ (Text.sameFolded · · = true) (tokenize text) (tokenize other)) :
    (∃ tree otherTree, compile text = .ok tree ∧ compile other = .ok otherTree ∧
      tree.Respelled (Counterparts (tokenize text) (tokenize other)) otherTree) ∨
    ∃ fault otherFault, compile text = .error fault ∧ compile other = .error otherFault ∧
      fault.Respelled (Counterparts (tokenize text) (tokenize other)) otherFault := by
  have alike := compile_alike (fun pair => pair.2) (forall₂_counterparts same)
  generalize compile text = outcome at alike
  generalize compile other = otherOutcome at alike
  cases alike with
  | ok trees => exact .inl ⟨_, _, rfl, rfl, trees⟩
  | error faults => exact .inr ⟨_, _, rfl, rfl, faults⟩

theorem compile_respelled_fault :
    compile "a noT b" = .error (.expectedToken "NULL" (some "b")) ∧
      ∃ otherFault, compile "A Not B" = .error otherFault ∧
        (RuleError.expectedToken "NULL" (some "b")).Respelled
          (Counterparts ["a", "noT", "b"] ["A", "Not", "B"]) otherFault := by
  have first : tokenize "a noT b" = ["a", "noT", "b"] := by decide +kernel
  have second : tokenize "A Not B" = ["A", "Not", "B"] := by decide +kernel
  have failed : compile "a noT b" = .error (.expectedToken "NULL" (some "b")) := by
    rw [compile, Reading.read, first]
    rfl
  have same : List.Forall₂ (Text.sameFolded · · = true) (tokenize "a noT b")
      (tokenize "A Not B") := by
    rw [first, second]
    exact .cons (by decide) (.cons (by decide) (.cons (by decide) .nil))
  rcases compile_respelled same with ⟨_, _, compiled, -⟩ | ⟨fault, other, fails, otherFails, faults⟩
  · rw [failed] at compiled
    cases compiled
  · obtain rfl := Except.error.inj (failed.symm.trans fails)
    rw [first, second] at faults
    exact ⟨failed, other, otherFails, faults⟩

end Verdict
