import Verdict.Proofs.Grammar.Recognition

/-!
The functions of the descent as one family. Each calls the next tighter one, and an operand calls
the loosest one again for the inside of a group.
-/

namespace Verdict

inductive Procedure where
  | disjunction
  | conjunction
  | negation
  | operand
  | atom
deriving DecidableEq

namespace Grammar

variable {α : Type}

def inside (reading : Reading α) : Nat → Option (Parser α)
  | 0 => none
  | levels + 1 => some (expression reading levels)

theorem expression_eq_disjunction (reading : Reading α) (levels : Nat) :
    expression reading levels = disjunction reading (inside reading levels) := by
  cases levels <;> rfl

def leaf (reading : Reading α) (tokens : List String) : Except RuleError (α × List String) := do
  let (found, rest) ← atom tokens
  let value ← reading.atom found
  .ok (value, rest)

theorem leaf_shortens {reading : Reading α} {tokens rest : List String} {value : α}
    (found : leaf reading tokens = .ok (value, rest)) : rest.length < tokens.length := by
  obtain ⟨⟨written, afterAtom⟩, ran, found⟩ := Fallible.bind_eq_ok_iff.mp found
  obtain ⟨leafValue, -, found⟩ := Fallible.bind_eq_ok_iff.mp found
  obtain ⟨-, rfl⟩ := Prod.mk.inj (Except.ok.inj found)
  exact atom_shortens ran

end Grammar

def Procedure.run {α : Type} (reading : Reading α) (levels : Nat) :
    Procedure → List String → Except RuleError (α × List String)
  | .disjunction => (Grammar.disjunction reading (Grammar.inside reading levels)).run
  | .conjunction => (Grammar.conjunction reading (Grammar.inside reading levels)).run
  | .negation => Grammar.negation reading (Grammar.inside reading levels)
  | .operand => Grammar.operand reading (Grammar.inside reading levels)
  | .atom => Grammar.leaf reading

theorem Procedure.run_shortens {α : Type} {reading : Reading α} {levels : Nat}
    {procedure : Procedure} {tokens rest : List String} {value : α}
    (found : procedure.run reading levels tokens = .ok (value, rest)) :
    rest.length < tokens.length := by
  cases procedure with
  | disjunction => exact (Grammar.disjunction reading _).shortens found
  | conjunction => exact (Grammar.conjunction reading _).shortens found
  | negation => exact Grammar.negation_shortens found
  | operand => exact Grammar.operand_shortens found
  | atom => exact Grammar.leaf_shortens found

end Verdict
