import Mathlib.Logic.Function.Iterate
import Verdict.Proofs.Descent.Cursor

/-!
The descent as a machine that walks over the tokens with one cursor and keeps the calls in progress
on a stack.
-/

namespace Verdict.Descent

open Grammar (requireWord takeWord)

inductive Frame (α : Type) where
  | chain (connective : Connective) (left : Option α)
  | negation (negated : Bool)
  | group
  | atom

def chainProcedure : Connective → Procedure
  | .and => .conjunction
  | .or => .disjunction

def linkProcedure : Connective → Procedure
  | .and => .negation
  | .or => .conjunction

namespace Frame

variable {α : Type}

def caller : Frame α → Procedure
  | chain connective _ => chainProcedure connective
  | negation _ => .negation
  | group => .operand
  | atom => .operand

def callee : Frame α → Procedure
  | chain connective _ => linkProcedure connective
  | negation _ => .operand
  | group => .disjunction
  | atom => .atom

def isGroup : Frame α → Bool
  | group => true
  | _ => false

end Frame

inductive Control (α : Type) where
  | call (procedure : Procedure)
  | returned (value : α)
  | failed (fault : RuleError)

/-- The call or return to come, the calls in progress from inner to outer, and the cursor. -/
structure State (α : Type) where
  control : Control α
  stack : List (Frame α)
  cursor : Cursor

variable {α : Type}

def initial : State α where
  control := .call .disjunction
  stack := []
  cursor := { position := 0, depth := 0 }

section Steps

variable (reading : Reading α) (tokens : List String)

def enter (procedure : Procedure) (stack : List (Frame α)) :
    Action (Control α × List (Frame α)) :=
  match procedure with
  | .disjunction => pure (.call .conjunction, .chain .or none :: stack)
  | .conjunction => pure (.call .negation, .chain .and none :: stack)
  | .negation => do
    let negated ← eat tokens "NOT"
    pure (.call .operand, .negation negated :: stack)
  | .operand => do
    if ← openGroup tokens then
      pure (.call .disjunction, .group :: stack)
    else
      pure (.call .atom, .atom :: stack)
  | .atom => do
    let value ← leaf reading tokens
    pure (.returned value, stack)

def goOn (connective : Connective) (value : α) (stack : List (Frame α)) :
    Action (Control α × List (Frame α)) := do
  if ← eat tokens connective.word then
    pure (.call (linkProcedure connective), .chain connective (some value) :: stack)
  else
    pure (.returned value, stack)

def resume (frame : Frame α) (value : α) (stack : List (Frame α)) :
    Action (Control α × List (Frame α)) :=
  match frame with
  | .chain connective none => goOn tokens connective value stack
  | .chain connective (some left) => do
    let joined ← ExceptT.mk (pure (connective.combine reading left value))
    goOn tokens connective joined stack
  | .negation negated => pure (.returned (if negated then reading.negate value else value), stack)
  | .group => do
    closeGroup tokens
    pure (.returned value, stack)
  | .atom => pure (.returned value, stack)

def act (control : Control α) (stack : List (Frame α)) : Action (Control α × List (Frame α)) :=
  match control, stack with
  | .call procedure, stack => enter reading tokens procedure stack
  | .returned value, frame :: stack => resume reading tokens frame value stack
  | .returned value, [] => pure (.returned value, [])
  | .failed fault, _ => throw fault

/-- A failure leaves the stack as it is. A descent that has returned or failed stands still. -/
def step (state : State α) : State α :=
  match act reading tokens state.control state.stack state.cursor with
  | (.ok (control, stack), cursor) => { control, stack, cursor }
  | (.error fault, cursor) => { control := .failed fault, stack := state.stack, cursor }

def run (steps : Nat) : State α :=
  (step reading tokens)^[steps] initial

end Steps

section Equations

variable {reading : Reading α} {tokens : List String} {control next : Control α}
  {stack inner : List (Frame α)} {cursor after : Cursor}

theorem step_of_ok
    (ran : act reading tokens control stack cursor = (.ok (next, inner), after)) :
    step reading tokens ⟨control, stack, cursor⟩ = ⟨next, inner, after⟩ := by
  simp only [step, ran]

theorem step_of_error {fault : RuleError}
    (ran : act reading tokens control stack cursor = (.error fault, after)) :
    step reading tokens ⟨control, stack, cursor⟩ = ⟨.failed fault, stack, after⟩ := by
  simp only [step, ran]

variable (reading tokens stack cursor)

theorem step_negation_cases :
    (takeWord "NOT" (tokens.drop cursor.position) = none ∧
        step reading tokens ⟨.call .negation, stack, cursor⟩ =
          ⟨.call .operand, .negation false :: stack, cursor⟩) ∨
      (cursor.position < tokens.length ∧
        takeWord "NOT" (tokens.drop cursor.position) =
          some (tokens.drop cursor.advance.position) ∧
        step reading tokens ⟨.call .negation, stack, cursor⟩ =
          ⟨.call .operand, .negation true :: stack, cursor.advance⟩) := by
  rcases eat_cases tokens "NOT" cursor with ⟨absent, ran⟩ | ⟨more, taken, ran⟩
  · exact .inl ⟨absent, step_of_ok (bind_ok ran)⟩
  · exact .inr ⟨more, taken, step_of_ok (bind_ok ran)⟩

theorem step_operand_cases :
    (takeWord "(" (tokens.drop cursor.position) = none ∧
        step reading tokens ⟨.call .operand, stack, cursor⟩ =
          ⟨.call .atom, .atom :: stack, cursor⟩) ∨
      (cursor.position < tokens.length ∧
        takeWord "(" (tokens.drop cursor.position) =
          some (tokens.drop cursor.advance.position) ∧
        step reading tokens ⟨.call .operand, stack, cursor⟩ =
          if cursor.depth ≥ maxNesting then
            ⟨.failed (.nestingTooDeep maxNesting), stack, cursor.advance⟩
          else
            ⟨.call .disjunction, .group :: stack,
              { position := cursor.position + 1, depth := cursor.depth + 1 }⟩) := by
  rcases eat_cases tokens "(" cursor with ⟨absent, ran⟩ | ⟨more, taken, ran⟩
  · have unopened : openGroup tokens cursor = (.ok false, cursor) := bind_ok ran
    exact .inl ⟨absent, step_of_ok (bind_ok unopened)⟩
  · refine .inr ⟨more, taken, ?_⟩
    by_cases full : cursor.depth ≥ maxNesting
    · rw [if_pos full]
      have entered : enterGroup cursor.advance =
          (.error (.nestingTooDeep maxNesting), cursor.advance) := if_pos full
      have refused : openGroup tokens cursor =
          (.error (.nestingTooDeep maxNesting), cursor.advance) :=
        (bind_ok ran).trans (bind_error entered)
      exact step_of_error (bind_error refused)
    · rw [if_neg full]
      have entered : enterGroup cursor.advance =
          (.ok (), { position := cursor.position + 1, depth := cursor.depth + 1 }) := if_neg full
      have opened : openGroup tokens cursor =
          (.ok true, { position := cursor.position + 1, depth := cursor.depth + 1 }) :=
        (bind_ok ran).trans (bind_ok entered)
      exact step_of_ok (bind_ok opened)

theorem step_link_cases (connective : Connective) (value : α) :
    (takeWord connective.word (tokens.drop cursor.position) = none ∧
        step reading tokens ⟨.returned value, .chain connective none :: stack, cursor⟩ =
          ⟨.returned value, stack, cursor⟩) ∨
      (cursor.position < tokens.length ∧
        takeWord connective.word (tokens.drop cursor.position) =
          some (tokens.drop cursor.advance.position) ∧
        step reading tokens ⟨.returned value, .chain connective none :: stack, cursor⟩ =
          ⟨.call (linkProcedure connective), .chain connective (some value) :: stack,
            cursor.advance⟩) := by
  rcases eat_cases tokens connective.word cursor with ⟨absent, ran⟩ | ⟨more, taken, ran⟩
  · exact .inl ⟨absent, step_of_ok (bind_ok ran)⟩
  · exact .inr ⟨more, taken, step_of_ok (bind_ok ran)⟩

theorem step_joined {connective : Connective} {left right joined : α}
    (combined : connective.combine reading left right = .ok joined) :
    step reading tokens ⟨.returned right, .chain connective (some left) :: stack, cursor⟩ =
      step reading tokens ⟨.returned joined, .chain connective none :: stack, cursor⟩ := by
  have same : act reading tokens (.returned right) (.chain connective (some left) :: stack) cursor =
      act reading tokens (.returned joined) (.chain connective none :: stack) cursor :=
    bind_ok (congrArg (·, cursor) combined)
  -- A chain that has its value does not fail before the next link.
  rcases eat_cases tokens connective.word cursor with ⟨absent, ran⟩ | ⟨more, taken, ran⟩
  · exact (step_of_ok (same.trans (bind_ok ran))).trans (step_of_ok (bind_ok ran)).symm
  · exact (step_of_ok (same.trans (bind_ok ran))).trans (step_of_ok (bind_ok ran)).symm

theorem step_refused {connective : Connective} {left right : α} {fault : RuleError}
    (combined : connective.combine reading left right = .error fault) :
    step reading tokens ⟨.returned right, .chain connective (some left) :: stack, cursor⟩ =
      ⟨.failed fault, .chain connective (some left) :: stack, cursor⟩ :=
  step_of_error (bind_error (congrArg (·, cursor) combined))

theorem step_group_cases (value : α) :
    (∃ fault, requireWord ")" (tokens.drop cursor.position) = .error fault ∧
        step reading tokens ⟨.returned value, .group :: stack, cursor⟩ =
          ⟨.failed fault, .group :: stack, cursor⟩) ∨
      (cursor.position < tokens.length ∧
        requireWord ")" (tokens.drop cursor.position) =
          .ok (tokens.drop cursor.advance.position) ∧
        step reading tokens ⟨.returned value, .group :: stack, cursor⟩ =
          ⟨.returned value, stack,
            { position := cursor.position + 1, depth := cursor.depth - 1 }⟩) := by
  rcases expect_cases tokens ")" cursor with ⟨fault, failed, ran⟩ | ⟨more, passed, ran⟩
  · exact .inl ⟨fault, failed, step_of_error (bind_error (bind_error ran))⟩
  · exact .inr ⟨more, passed, step_of_ok (bind_ok (bind_ok ran))⟩

end Equations

end Verdict.Descent
