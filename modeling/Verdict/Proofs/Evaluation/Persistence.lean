import Verdict.Proofs.Evaluation.Agreement
import Verdict.Proofs.Evaluation.Spacing
import Verdict.Proofs.Grammar.Lookahead

/-! Faults that nothing after them can cure. Both readings of a text go from left to right, so a
fault that is found at a token is found there whatever the text goes on with. -/

namespace Verdict

open Grammar (Placeless)

theorem placeless_tree : Placeless Reading.tree where
  atom := nofun
  combine := by
    intro connective left right fault failed
    rw [combine_tree] at failed
    split at failed
    · cases failed
    · cases failed
      nofun

theorem placeless_value (bindings : Bindings) : Placeless (Reading.value bindings) where
  atom := by
    intro leaf fault failed
    obtain ⟨name, -, -, rfl⟩ := Grammar.atom_evaluate_eq_error failed
    nofun
  combine := by
    intro connective left right fault failed
    obtain ⟨value, combined⟩ :
        ∃ value, connective.combine (Reading.value bindings) left right = .ok value :=
      Grammar.combine_value connective left right
    rw [combined] at failed
    cases failed

/-- A located fault of a text stays its fault, in compiling and under every table, when a space and
any other text are written after it, unless a quote of that text closes one of the first. -/
theorem located_fault_persists {text : String} (closed : Even (text.toList.count '\''))
    (further : String) {fault : RuleError} (located : fault.Located) :
    (compile text = .error fault → compile (text ++ " " ++ further) = .error fault) ∧
      ∀ bindings, evaluate bindings text = .error fault →
        evaluate bindings (text ++ " " ++ further) = .error fault := by
  have blank : ∀ char ∈ " ".toList, Text.isBlank char = true :=
    List.forall_mem_singleton.mpr (by decide)
  have longer : tokenize (text ++ " " ++ further) = tokenize text ++ tokenize further :=
    tokenize_gap (by decide) blank (.inl closed)
  constructor
  · intro failed
    rw [compile_eq_error_iff] at failed ⊢
    exact Reading.read_located placeless_tree longer located failed
  · intro bindings failed
    exact Reading.read_located (placeless_value bindings) longer located failed

theorem missing_null_persists :
    compile "A NOT B NULL" = .error (.expectedToken "NULL" (some "B")) ∧
      evaluate .empty "A NOT B NULL" = .error (.expectedToken "NULL" (some "B")) := by
  have written : tokenize "A NOT B" = ["A", "NOT", "B"] := by decide +kernel
  have compiled : compile "A NOT B" = .error (.expectedToken "NULL" (some "B")) := by
    rw [compile, Reading.read, written]
    rfl
  have evaluated : evaluate .empty "A NOT B" = .error (.expectedToken "NULL" (some "B")) := by
    rw [evaluate, Reading.read, written]
    rfl
  have closed : Even ("A NOT B".toList.count '\'') := by decide
  have persists := located_fault_persists closed "NULL" (.unexpected "NULL" "B")
  exact ⟨persists.1 compiled, persists.2 .empty evaluated⟩

end Verdict
