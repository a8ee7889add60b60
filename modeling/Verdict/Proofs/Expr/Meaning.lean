import Mathlib.Logic.Basic
import Verdict.Proofs.Evaluation.Acceptance

/-! What a tree says about a table, without an order of evaluation. A tree has a value exactly when
the table supports all of its bare variables, and the value is the plain reading of its connectives;
the leftmost bare variable without support is the fault. -/

namespace Verdict

def Bindings.Decides (bindings : Bindings) (name : String) : Prop :=
  ∃ truth, bindings.get? name = some (.boolean truth)

theorem Bindings.truth?_eq_some_iff {bindings : Bindings} {name : String} {truth : Bool} :
    bindings.truth? name = some truth ↔ bindings.get? name = some (.boolean truth) := by
  rw [truth?, Option.bind_eq_some_iff]
  constructor
  · rintro ⟨value, found, isTruth⟩
    cases value <;> cases isTruth
    exact found
  · intro found
    exact ⟨.boolean truth, found, rfl⟩

theorem Bindings.truth?_eq_none_iff {bindings : Bindings} {name : String} :
    bindings.truth? name = none ↔ ¬ bindings.Decides name := by
  rw [Option.eq_none_iff_forall_ne_some, Decides, not_exists]
  exact forall_congr' fun truth => not_congr truth?_eq_some_iff

def Atom.Holds (bindings : Bindings) : Atom → Prop
  | .compare name operator literal =>
    compareValues (bindings.get? name) operator (some literal) = true
  | .absent name => bindings.get? name = none
  | .present name => bindings.get? name ≠ none
  | .bare name => bindings.get? name = some (.boolean true)

def Expr.Holds (bindings : Bindings) : Expr → Prop
  | .atom leaf => leaf.Holds bindings
  | .not inner => ¬ inner.Holds bindings
  | .and left right => left.Holds bindings ∧ right.Holds bindings
  | .or left right => left.Holds bindings ∨ right.Holds bindings

def Atom.fault? (bindings : Bindings) : Atom → Option RuleError
  | .bare name => if (bindings.truth? name).isNone then some (.bareBoolean name) else none
  | _ => none

namespace Atom

variable {bindings : Bindings} {leaf : Atom}

theorem fault?_eq_some_iff {fault : RuleError} :
    leaf.fault? bindings = some fault ↔
      ∃ name, leaf = .bare name ∧ ¬ bindings.Decides name ∧ fault = .bareBoolean name := by
  cases leaf with
  | bare name =>
    simp only [fault?, Option.isNone_iff_eq_none, Bindings.truth?_eq_none_iff,
      Option.ite_none_right_eq_some, Option.some.injEq]
    constructor
    · rintro ⟨undecided, rfl⟩
      exact ⟨name, rfl, undecided, rfl⟩
    · rintro ⟨other, same, undecided, rfl⟩
      cases same
      exact ⟨undecided, rfl⟩
  | _ => simp [fault?]

theorem fault?_eq_none_iff :
    leaf.fault? bindings = none ↔ ∀ name, leaf = .bare name → bindings.Decides name := by
  rw [Option.eq_none_iff_forall_ne_some]
  simp only [ne_eq, fault?_eq_some_iff, not_exists, not_and]
  constructor
  · intro unfaulted name bare
    exact Classical.byContradiction fun undecided => unfaulted _ name bare undecided rfl
  · intro decided fault name bare undecided
    exact absurd (decided name bare) undecided

theorem evaluate_of_fault {fault : RuleError} (found : leaf.fault? bindings = some fault) :
    leaf.evaluate bindings = .error fault := by
  obtain ⟨name, rfl, undecided, rfl⟩ := fault?_eq_some_iff.mp found
  rw [evaluate, Bindings.truth?_eq_none_iff.mpr undecided]

theorem exists_value (unfaulted : leaf.fault? bindings = none) :
    ∃ value, leaf.evaluate bindings = .ok value ∧ (value = true ↔ leaf.Holds bindings) := by
  cases leaf with
  | compare name operator literal => exact ⟨_, rfl, Iff.rfl⟩
  | absent name =>
    refine ⟨_, rfl, ?_⟩
    rw [Bindings.contains_eq_isSome_get?, Bool.not_eq_true', Option.isSome_eq_false_iff,
      Option.isNone_iff_eq_none]
    rfl
  | present name =>
    refine ⟨_, rfl, ?_⟩
    rw [Bindings.contains_eq_isSome_get?, ← Option.ne_none_iff_isSome]
    rfl
  | bare name =>
    obtain ⟨truth, found⟩ := fault?_eq_none_iff.mp unfaulted name rfl
    refine ⟨truth, ?_, ?_⟩
    · rw [evaluate, Bindings.truth?_eq_some_iff.mpr found]
    · rw [Holds, found]
      simp

end Atom

namespace Expr

variable {bindings : Bindings} {tree : Expr}

theorem evaluate_build (connective : Connective) (left right : Expr) :
    (connective.build left right).evaluate bindings =
      left.evaluate bindings >>= fun leftValue =>
        right.evaluate bindings >>= fun rightValue =>
          connective.combine (Reading.value bindings) leftValue rightValue := by
  simp only [← fold_value, Grammar.fold_build]

def fault? (bindings : Bindings) (tree : Expr) : Option RuleError :=
  tree.atoms.findSome? (Atom.fault? bindings)

theorem fault?_build (connective : Connective) (left right : Expr) :
    (connective.build left right).fault? bindings =
      (left.fault? bindings).or (right.fault? bindings) := by
  rw [fault?, atoms_build, List.findSome?_append]
  rfl

theorem fault?_eq_some_iff {fault : RuleError} :
    tree.fault? bindings = some fault ↔
      ∃ before name after, tree.atoms = before ++ .bare name :: after ∧
        (∀ earlier, .bare earlier ∈ before → bindings.Decides earlier) ∧
        ¬ bindings.Decides name ∧ fault = .bareBoolean name := by
  rw [fault?, List.findSome?_eq_some_iff]
  simp only [Atom.fault?_eq_none_iff]
  constructor
  · rintro ⟨before, leaf, after, split, found, quiet⟩
    obtain ⟨name, rfl, undecided, rfl⟩ := Atom.fault?_eq_some_iff.mp found
    exact ⟨before, name, after, split, fun earlier member => quiet _ member earlier rfl,
      undecided, rfl⟩
  · rintro ⟨before, name, after, split, decided, undecided, rfl⟩
    refine ⟨before, .bare name, after, split,
      Atom.fault?_eq_some_iff.mpr ⟨name, rfl, undecided, rfl⟩, ?_⟩
    rintro _ member earlier rfl
    exact decided earlier member

theorem fault?_eq_none_iff :
    tree.fault? bindings = none ↔ ∀ name, .bare name ∈ tree.atoms → bindings.Decides name := by
  rw [fault?, List.findSome?_eq_none_iff]
  simp only [Atom.fault?_eq_none_iff]
  constructor
  · intro quiet name member
    exact quiet _ member name rfl
  · rintro decided _ member name rfl
    exact decided name member

theorem exists_value (unfaulted : tree.fault? bindings = none) :
    ∃ value, tree.evaluate bindings = .ok value ∧ (value = true ↔ tree.Holds bindings) := by
  induction tree using Expr.connectiveInduction with
  | atom leaf =>
    exact leaf.exists_value (List.findSome?_eq_none_iff.mp unfaulted leaf List.mem_cons_self)
  | not inner ih =>
    obtain ⟨value, evaluated, said⟩ := ih unfaulted
    refine ⟨!value, ?_, ?_⟩
    · rw [evaluate, evaluated]
      rfl
    · rw [Holds, ← said]
      simp
  | joined connective left right leftIh rightIh =>
    rw [fault?_build, Option.or_eq_none_iff] at unfaulted
    obtain ⟨leftValue, leftEvaluated, leftSaid⟩ := leftIh unfaulted.1
    obtain ⟨rightValue, rightEvaluated, rightSaid⟩ := rightIh unfaulted.2
    rw [evaluate_build, leftEvaluated, rightEvaluated]
    cases connective with
    | and =>
      refine ⟨leftValue && rightValue, rfl, ?_⟩
      rw [Bool.and_eq_true, leftSaid, rightSaid]
      rfl
    | or =>
      refine ⟨leftValue || rightValue, rfl, ?_⟩
      rw [Bool.or_eq_true, leftSaid, rightSaid]
      rfl

theorem evaluate_of_fault {fault : RuleError} (found : tree.fault? bindings = some fault) :
    tree.evaluate bindings = .error fault := by
  induction tree using Expr.connectiveInduction with
  | atom leaf =>
    apply Atom.evaluate_of_fault
    simpa [fault?, atoms] using found
  | not inner ih =>
    rw [evaluate, ih found]
    rfl
  | joined connective left right leftIh rightIh =>
    rw [fault?_build, Option.or_eq_some_iff] at found
    rw [evaluate_build]
    rcases found with onLeft | ⟨quiet, onRight⟩
    · rw [leftIh onLeft]
      rfl
    · obtain ⟨leftValue, evaluated, -⟩ := exists_value quiet
      rw [evaluated, rightIh onRight]
      rfl

theorem evaluate_eq_error_iff {fault : RuleError} :
    tree.evaluate bindings = .error fault ↔ tree.fault? bindings = some fault := by
  constructor
  · intro failed
    cases found : tree.fault? bindings with
    | none =>
      obtain ⟨value, evaluated, -⟩ := exists_value found
      rw [evaluated] at failed
      cases failed
    | some other =>
      rw [evaluate_of_fault found] at failed
      exact congrArg some (Except.error.inj failed)
  · exact evaluate_of_fault

theorem evaluate_eq_ok_iff {value : Bool} :
    tree.evaluate bindings = .ok value ↔
      tree.fault? bindings = none ∧ (value = true ↔ tree.Holds bindings) := by
  cases found : tree.fault? bindings with
  | some fault => simp [evaluate_of_fault found]
  | none =>
    obtain ⟨other, evaluated, said⟩ := exists_value found
    rw [evaluated, ← said, Except.ok.injEq, ← Bool.eq_iff_iff, and_iff_right rfl]
    exact eq_comm

/-- Trees that swapped operands and De Morgan's laws, applied anywhere, turn into each other. -/
inductive Rearranged : Expr → Expr → Prop
  | refl (same : Expr) : Rearranged same same
  | symm {first second} : Rearranged first second → Rearranged second first
  | trans {first second third} : Rearranged first second → Rearranged second third →
      Rearranged first third
  | swappedAnd (left right) : Rearranged (.and left right) (.and right left)
  | swappedOr (left right) : Rearranged (.or left right) (.or right left)
  | negatedAnd (left right) :
      Rearranged (.not (.and left right)) (.or (.not left) (.not right))
  | negatedOr (left right) :
      Rearranged (.not (.or left right)) (.and (.not left) (.not right))
  | not {first second} : Rearranged first second → Rearranged (.not first) (.not second)
  | and {left right otherLeft otherRight} : Rearranged left otherLeft →
      Rearranged right otherRight → Rearranged (.and left right) (.and otherLeft otherRight)
  | or {left right otherLeft otherRight} : Rearranged left otherLeft →
      Rearranged right otherRight → Rearranged (.or left right) (.or otherLeft otherRight)

namespace Rearranged

variable {first second : Expr}

theorem mem_atoms_iff (rearranged : Rearranged first second) (leaf : Atom) :
    leaf ∈ first.atoms ↔ leaf ∈ second.atoms := by
  induction rearranged with
  | refl => exact Iff.rfl
  | symm _ ih => exact ih.symm
  | trans _ _ firstIh secondIh => exact firstIh.trans secondIh
  | swappedAnd | swappedOr =>
    simp only [atoms, List.mem_append]
    exact or_comm
  | negatedAnd | negatedOr => exact Iff.rfl
  | not _ ih => exact ih
  | and _ _ leftIh rightIh | or _ _ leftIh rightIh =>
    simp only [atoms, List.mem_append]
    exact or_congr leftIh rightIh

theorem holds_iff (rearranged : Rearranged first second) (bindings : Bindings) :
    first.Holds bindings ↔ second.Holds bindings := by
  induction rearranged with
  | refl => exact Iff.rfl
  | symm _ ih => exact ih.symm
  | trans _ _ firstIh secondIh => exact firstIh.trans secondIh
  | swappedAnd => exact and_comm
  | swappedOr => exact or_comm
  | negatedAnd => exact not_and_or
  | negatedOr => exact not_or
  | not _ ih => exact not_congr ih
  | and _ _ leftIh rightIh => exact and_congr leftIh rightIh
  | or _ _ leftIh rightIh => exact or_congr leftIh rightIh

theorem fault?_eq_none_iff (rearranged : Rearranged first second) (bindings : Bindings) :
    first.fault? bindings = none ↔ second.fault? bindings = none := by
  rw [Expr.fault?_eq_none_iff, Expr.fault?_eq_none_iff]
  exact forall_congr' fun name => imp_congr_left (rearranged.mem_atoms_iff _)

end Rearranged

/-- A tree fails exactly when some bare variable in it has no truth value, at the leftmost such
variable, and otherwise has the value of its plain reading. Operands may be swapped and negations
moved inwards: the tree fails as before or has the same value. -/
theorem evaluate_strict_meaning (tree : Expr) (bindings : Bindings) :
    ((∃ fault, tree.evaluate bindings = .error fault) ↔
      ∃ name, .bare name ∈ tree.atoms ∧ ¬ bindings.Decides name) ∧
    (∀ fault, tree.evaluate bindings = .error fault ↔
      ∃ before name after, tree.atoms = before ++ .bare name :: after ∧
        (∀ earlier, .bare earlier ∈ before → bindings.Decides earlier) ∧
        ¬ bindings.Decides name ∧ fault = .bareBoolean name) ∧
    (∀ value, tree.evaluate bindings = .ok value ↔
      (∀ name, .bare name ∈ tree.atoms → bindings.Decides name) ∧
        (value = true ↔ tree.Holds bindings)) ∧
    ∀ other, tree.Rearranged other →
      ((∃ fault, tree.evaluate bindings = .error fault) ↔
        ∃ fault, other.evaluate bindings = .error fault) ∧
      ∀ value, tree.evaluate bindings = .ok value ↔ other.evaluate bindings = .ok value := by
  have fails (tree : Expr) : (∃ fault, tree.evaluate bindings = .error fault) ↔
      tree.fault? bindings ≠ none := by
    simp only [evaluate_eq_error_iff, Option.ne_none_iff_exists']
  refine ⟨?_, ?_, ?_, ?_⟩
  · rw [fails, Ne, fault?_eq_none_iff]
    simp only [Classical.not_forall, exists_prop]
  · intro fault
    rw [evaluate_eq_error_iff, fault?_eq_some_iff]
  · intro value
    rw [evaluate_eq_ok_iff, fault?_eq_none_iff]
  · intro other rearranged
    refine ⟨?_, fun value => ?_⟩
    · rw [fails, fails, Ne, Ne, rearranged.fault?_eq_none_iff]
    · rw [evaluate_eq_ok_iff, evaluate_eq_ok_iff, rearranged.fault?_eq_none_iff,
        rearranged.holds_iff]

end Expr

end Verdict
