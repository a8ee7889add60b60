import Verdict.Proofs.Evaluation.Acceptance
import Verdict.Proofs.Grammar.Lockstep

/-!
The value of a text in one pass, compared with the value of its tree and with its value under other
bindings. Only a bare variable without a truth value and a tree that is too high stop one reading
and not another.
-/

namespace Verdict

open Grammar (Part Lockstep)

namespace Grammar

variable {α β : Type} {first : Reading α} {second : Reading β} {tokens : List String}
  {bindings : Bindings}

theorem Part.swap {left : Except RuleError α} {right : Except RuleError β}
    (part : Part first second tokens left right) : Part second first tokens right left := by
  cases part with
  | atom named => exact .atom named
  | joined connective left right otherLeft otherRight => exact .joined connective _ _ _ _

theorem combine_value (connective : Connective) (left right : Bool) :
    ∃ value, connective.combine (Reading.value bindings) left right = .ok value := by
  cases connective <;> exact ⟨_, rfl⟩

theorem atom_evaluate_eq_error {leaf : Atom} {fault : RuleError}
    (failed : leaf.evaluate bindings = .error fault) :
    ∃ name, leaf = .bare name ∧ bindings.truth? name = none ∧ fault = .bareBoolean name := by
  cases leaf with
  | compare name operator literal => cases failed
  | absent name => cases failed
  | present name => cases failed
  | bare name =>
    rw [Atom.evaluate] at failed
    cases unbound : bindings.truth? name with
    | some truth => rw [unbound] at failed; cases failed
    | none =>
      rw [unbound] at failed
      cases failed
      exact ⟨name, rfl, unbound, rfl⟩

theorem Part.value_stops {left : Except RuleError Bool} {right : Except RuleError β}
    (part : Part (Reading.value bindings) second tokens left right) {fault : RuleError}
    (failed : left = .error fault) :
    ∃ name ∈ tokens, bindings.truth? name = none ∧ fault = .bareBoolean name ∧
      right = second.atom (.bare name) := by
  cases part with
  | atom named =>
    obtain ⟨name, rfl, unbound, same⟩ := atom_evaluate_eq_error failed
    exact ⟨name, named, unbound, same, rfl⟩
  | joined connective left right otherLeft otherRight =>
    obtain ⟨value, combined⟩ : ∃ value,
        connective.combine (Reading.value bindings) left right = .ok value :=
      combine_value connective left right
    rw [combined] at failed
    cases failed

theorem Part.tree_stops {left : Except RuleError α} {right : Except RuleError Subtree}
    (part : Part first Reading.tree tokens left right) {fault : RuleError}
    (failed : right = .error fault) : fault = .nestingTooDeep maxHeight := by
  cases part with
  | atom named => cases failed
  | joined connective left right otherLeft otherRight =>
    rw [combine_tree] at failed
    split at failed
    · cases failed
    · exact (Except.error.inj failed).symm

end Grammar

theorem compile_eq_error_iff {text : String} {fault : RuleError} :
    compile text = .error fault ↔ Reading.tree.read text = .error fault := by
  unfold compile
  cases Reading.tree.read text with
  | error other => simp [bind, Except.bind]
  | ok subtree => simp [bind, Except.bind, pure, Except.pure]

theorem evaluate_of_compile {text : String} {tree : Expr} (compiled : compile text = .ok tree)
    (bindings : Bindings) : evaluate bindings text = tree.evaluate bindings := by
  obtain ⟨sentence, shape, rfl, -⟩ := sentence_of_compile compiled
  rw [evaluate, Reading.read_sentence _ sentence shape, fold_value]

theorem evaluate_of_compile_error {text : String} {fault : RuleError}
    (failed : compile text = .error fault) (other : fault ≠ .nestingTooDeep maxHeight)
    (bindings : Bindings) :
    evaluate bindings text = .error fault ∨
      ∃ name ∈ tokenize text, bindings.truth? name = none ∧
        evaluate bindings text = .error (.bareBoolean name) := by
  rw [compile_eq_error_iff] at failed
  have run := (Reading.value bindings).read_lockstep Reading.tree text
  rw [failed] at run
  unfold evaluate
  generalize (Reading.value bindings).read text = outcome at run ⊢
  cases run with
  | malformed => exact .inl rfl
  | firstStops part =>
    obtain ⟨name, named, unbound, rfl, -⟩ := part.value_stops rfl
    exact .inr ⟨name, named, unbound, rfl⟩
  | secondStops part => exact (other (part.tree_stops rfl)).elim
  | bothStop part => exact (other (part.tree_stops rfl)).elim

theorem compile_of_evaluate {text : String} {bindings : Bindings} {result : Bool}
    (evaluated : evaluate bindings text = .ok result) :
    (∃ tree, compile text = .ok tree ∧ tree.evaluate bindings = .ok result) ∨
      compile text = .error (.nestingTooDeep maxHeight) := by
  have run := (Reading.value bindings).read_lockstep Reading.tree text
  rw [show (Reading.value bindings).read text = .ok result from evaluated] at run
  cases compiled : compile text with
  | ok tree =>
    exact .inl ⟨tree, rfl, (evaluate_of_compile compiled bindings).symm.trans evaluated⟩
  | error fault =>
    rw [compile_eq_error_iff] at compiled
    rw [compiled] at run
    cases run with
    | secondStops part => exact .inr (congrArg _ (part.tree_stops rfl))

theorem compile_of_evaluate_error {text : String} {bindings : Bindings} {fault : RuleError}
    (failed : evaluate bindings text = .error fault) (structural : fault.kind = .structural) :
    compile text = .error fault ∨ compile text = .error (.nestingTooDeep maxHeight) := by
  rw [compile_eq_error_iff, compile_eq_error_iff]
  have run := (Reading.value bindings).read_lockstep Reading.tree text
  rw [show (Reading.value bindings).read text = .error fault from failed] at run
  have unstopped : ∀ {outcome},
      ¬Part (Reading.value bindings) Reading.tree (tokenize text) (.error fault) outcome := by
    intro outcome part
    obtain ⟨name, -, -, rfl, -⟩ := part.value_stops rfl
    cases structural
  generalize Reading.tree.read text = outcome at run ⊢
  cases run with
  | malformed => exact .inl rfl
  | firstStops part => exact (unstopped part).elim
  | secondStops part => exact .inr (congrArg _ (part.tree_stops rfl))
  | bothStop part => exact (unstopped part).elim

/-- The value of a text in one pass and the value of its tree agree, faults included. -/
theorem evaluate_agrees_with_compile (bindings : Bindings) (text : String) :
    (∀ tree, compile text = .ok tree →
      evaluate bindings text = tree.evaluate bindings) ∧
    (∀ fault, compile text = .error fault → fault ≠ .nestingTooDeep maxHeight →
      (evaluate bindings text = .error fault ∨
        ∃ name, bindings.truth? name = none ∧
          evaluate bindings text = .error (.bareBoolean name)) ∧
      ((∀ token ∈ tokenize text, bindings.truth? token ≠ none) →
        evaluate bindings text = .error fault)) ∧
    (∀ result, evaluate bindings text = .ok result →
      (∃ tree, compile text = .ok tree ∧ tree.evaluate bindings = .ok result) ∨
        compile text = .error (.nestingTooDeep maxHeight)) ∧
    (∀ fault, fault.kind = .structural → evaluate bindings text = .error fault →
      compile text = .error fault ∨ compile text = .error (.nestingTooDeep maxHeight)) := by
  refine ⟨?_, ?_, ?_, ?_⟩
  · intro tree compiled
    exact evaluate_of_compile compiled bindings
  · intro fault failed other
    rcases evaluate_of_compile_error failed other bindings with
      same | ⟨name, named, unbound, bare⟩
    · exact ⟨.inl same, fun _ => same⟩
    · exact ⟨.inr ⟨name, unbound, bare⟩, fun bound => (bound name named unbound).elim⟩
  · intro result evaluated
    exact compile_of_evaluate evaluated
  · intro fault structural failed
    exact compile_of_evaluate_error failed structural

/-- Whether a text is well formed, and what is wrong with it, does not depend on the bindings. A
bare variable that stops one table and not the other is bound to a truth value by the other alone.
-/
theorem structural_verdict_independent (text : String) (first second : Bindings) :
    ((∀ name, evaluate first text ≠ .error (.bareBoolean name)) →
      (∀ name, evaluate second text ≠ .error (.bareBoolean name)) →
      (∃ result other, evaluate first text = .ok result ∧ evaluate second text = .ok other) ∨
        ∃ fault, evaluate first text = .error fault ∧ evaluate second text = .error fault) ∧
    (∀ name, evaluate first text = .error (.bareBoolean name) →
      (∀ other, evaluate second text ≠ .error (.bareBoolean other)) →
      first.truth? name = none ∧ ∃ truth, second.truth? name = some truth) := by
  have run := (Reading.value first).read_lockstep (Reading.value second) text
  unfold evaluate
  generalize (Reading.value first).read text = left at run ⊢
  generalize (Reading.value second).read text = right at run ⊢
  constructor
  · intro firstGoesOn secondGoesOn
    cases run with
    | agree _ => exact .inl ⟨_, _, rfl, rfl⟩
    | malformed => exact .inr ⟨_, rfl, rfl⟩
    | firstStops part | bothStop part =>
      obtain ⟨name, -, -, rfl, -⟩ := part.value_stops rfl
      exact (firstGoesOn name rfl).elim
    | secondStops part =>
      obtain ⟨name, -, -, rfl, -⟩ := part.swap.value_stops rfl
      exact (secondGoesOn name rfl).elim
  · rintro name rfl secondGoesOn
    generalize stop : RuleError.bareBoolean name = fault at run
    cases run with
    | malformed => exact (secondGoesOn name (congrArg _ stop.symm)).elim
    | firstStops part =>
      obtain ⟨other, -, unbound, same, passed⟩ := part.value_stops rfl
      obtain rfl := RuleError.bareBoolean.inj (stop.trans same)
      refine ⟨unbound, ?_⟩
      cases bound : second.truth? name with
      | some truth => exact ⟨truth, rfl⟩
      | none => simp [Reading.value, Atom.evaluate, bound] at passed
    | secondStops part | bothStop part =>
      obtain ⟨other, -, -, rfl, -⟩ := part.swap.value_stops rfl
      exact (secondGoesOn other rfl).elim

end Verdict
