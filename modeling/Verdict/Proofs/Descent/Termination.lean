import Verdict.Proofs.Descent.Invariant

/-!
The machine does what the functions over the remaining tokens do: every call comes to the outcome of
its function, and until then stays on the stack.
-/

namespace Verdict.Descent

variable {α : Type} {reading : Reading α} {tokens : List String}

inductive Ends (tokens : List String) (stack : List (Frame α)) (depth : Int) :
    Except RuleError (α × List String) → State α → Prop
  | returned {value : α} {position : Nat} (within : position ≤ tokens.length) :
      Ends tokens stack depth (.ok (value, tokens.drop position))
        ⟨.returned value, stack, { position, depth }⟩
  | failed {fault : RuleError} {inner : List (Frame α)} {cursor : Cursor}
      (inside : stack <:+ inner) :
      Ends tokens stack depth (.error fault) ⟨.failed fault, inner, cursor⟩

def State.Inside (state : State α) (stack : List (Frame α)) : Prop :=
  ∃ frame, frame :: stack <:+ state.stack

theorem State.Inside.of_cons {state : State α} {frame : Frame α} {stack : List (Frame α)}
    (inside : state.Inside (frame :: stack)) : state.Inside stack := by
  obtain ⟨inner, inside⟩ := inside
  exact ⟨frame, (List.suffix_cons inner _).trans inside⟩

/-- From a state inside a call the machine comes to the end of that call. -/
inductive Comes (reading : Reading α) (tokens : List String) (stack : List (Frame α))
    (depth : Int) (outcome : Except RuleError (α × List String)) : State α → Prop
  | ends {state : State α} (ends : Ends tokens stack depth outcome state) :
      Comes reading tokens stack depth outcome state
  | step {state : State α} (running : state.Running) (inside : state.Inside stack)
      (comes : Comes reading tokens stack depth outcome (step reading tokens state)) :
      Comes reading tokens stack depth outcome state

namespace Comes

variable {stack : List (Frame α)} {depth innerDepth : Int} {frame : Frame α}
  {outcome : Except RuleError (α × List String)}
  {next : α × List String → Except RuleError (α × List String)}

theorem bind {state : State α}
    (inner : Comes reading tokens (frame :: stack) innerDepth outcome state)
    (resumed : ∀ value position, position ≤ tokens.length →
      outcome = .ok (value, tokens.drop position) →
      Comes reading tokens stack depth (next (value, tokens.drop position))
        (Descent.step reading tokens
          ⟨.returned value, frame :: stack, { position, depth := innerDepth }⟩)) :
    Comes reading tokens stack depth (outcome >>= next) state := by
  induction inner with
  | ends ends =>
    cases ends with
    | returned within =>
      exact .step (List.cons_ne_nil _ _) ⟨frame, List.suffix_refl _⟩ (resumed _ _ within rfl)
    | failed inside => exact .ends (.failed ((List.suffix_cons frame stack).trans inside))
  | step running inside comes ih => exact .step running inside.of_cons ih

theorem call {procedure : Procedure} {cursor : Cursor}
    (called : Comes reading tokens (frame :: stack) innerDepth outcome
      (Descent.step reading tokens ⟨.call procedure, frame :: stack, cursor⟩))
    (resumed : ∀ value position, position ≤ tokens.length →
      outcome = .ok (value, tokens.drop position) →
      Comes reading tokens stack depth (next (value, tokens.drop position))
        (Descent.step reading tokens
          ⟨.returned value, frame :: stack, { position, depth := innerDepth }⟩)) :
    Comes reading tokens stack depth (outcome >>= next)
      ⟨.call procedure, frame :: stack, cursor⟩ :=
  .step trivial ⟨frame, List.suffix_refl _⟩ (called.bind resumed)

theorem pass {procedure : Procedure} {cursor : Cursor}
    (called : Comes reading tokens (frame :: stack) depth outcome
      (Descent.step reading tokens ⟨.call procedure, frame :: stack, cursor⟩))
    (resumed : ∀ value after, Descent.step reading tokens ⟨.returned value, frame :: stack, after⟩ =
      ⟨.returned value, stack, after⟩) :
    Comes reading tokens stack depth outcome ⟨.call procedure, frame :: stack, cursor⟩ := by
  rw [← bind_pure outcome]
  refine called.call fun value position within _ => ?_
  rw [resumed]
  exact .ends (.returned within)

end Comes

/-- The calls of a procedure at some depth come to what a function says. -/
def Follows (reading : Reading α) (tokens : List String) (procedure : Procedure) (depth : Int)
    (function : List String → Except RuleError (α × List String)) : Prop :=
  ∀ stack position, position ≤ tokens.length →
    Comes reading tokens stack depth (function (tokens.drop position))
      (step reading tokens ⟨.call procedure, stack, { position, depth }⟩)

def FollowsInside (reading : Reading α) (tokens : List String) (depth : Int) :
    Option (Parser α) → Prop
  | none => depth ≥ maxNesting
  | some parser => depth < maxNesting ∧
      Follows reading tokens .disjunction (depth + 1) parser.run

section Procedures

variable {depth : Int} {inside : Option (Parser α)}

theorem leaf_follows : Follows reading tokens .atom depth (Grammar.leaf reading) := by
  intro stack position within
  let cursor : Cursor := { position, depth }
  have agrees : Agrees tokens cursor (Grammar.leaf reading (tokens.drop position))
      (leaf reading tokens cursor) :=
    leaf_agrees reading within
  generalize Grammar.leaf reading (tokens.drop position) = outcome at agrees ⊢
  generalize ran : leaf reading tokens cursor = result at agrees
  cases agrees with
  | error forward within =>
    rw [step_of_error (bind_error ran)]
    exact .ends (.failed (List.suffix_refl _))
  | ok forward within =>
    rw [step_of_ok (bind_ok ran)]
    exact .ends (.returned within)

theorem operand_follows (insides : FollowsInside reading tokens depth inside) :
    Follows reading tokens .operand depth (Grammar.operand reading inside) := by
  intro stack position within
  unfold Grammar.operand
  rcases step_operand_cases reading tokens stack { position, depth } with
    ⟨absent, same⟩ | ⟨more, taken, same⟩
  · rw [same]
    simp only [absent]
    exact (leaf_follows (.atom :: stack) position within).pass fun _ _ => rfl
  · rw [same]
    simp only [taken]
    cases inside with
    | none =>
      have full : depth ≥ maxNesting := insides
      rw [if_pos full]
      exact .ends (.failed (List.suffix_refl _))
    | some parser =>
      rw [if_neg (Int.not_le.mpr insides.1)]
      refine (insides.2 (.group :: stack) (position + 1) more).call fun value position _ _ => ?_
      rcases step_group_cases reading tokens stack { position, depth := depth + 1 } value with
        ⟨fault, missing, same⟩ | ⟨more, closed, same⟩
      · rw [same]
        simp only [missing]
        exact .ends (.failed (List.suffix_cons _ _))
      · rw [same, Int.add_sub_cancel]
        simp only [closed]
        exact .ends (.returned more)

theorem negation_follows (insides : FollowsInside reading tokens depth inside) :
    Follows reading tokens .negation depth (Grammar.negation reading inside) := by
  intro stack position within
  have operands := operand_follows insides
  unfold Grammar.negation
  rcases step_negation_cases reading tokens stack { position, depth } with
    ⟨absent, same⟩ | ⟨more, taken, same⟩
  · rw [same]
    simp only [absent]
    exact (operands (.negation false :: stack) position within).pass fun _ _ => rfl
  · rw [same]
    simp only [taken]
    exact (operands (.negation true :: stack) (position + 1) more).call
      fun value position within _ => .ends (.returned within)

variable {connective : Connective} {link : Parser α}

theorem chainRest_comes
    (links : Follows reading tokens (linkProcedure connective) depth link.run)
    (stack : List (Frame α)) (left : α) {position : Nat} (within : position ≤ tokens.length) :
    Comes reading tokens stack depth
      (Grammar.chainRest connective.word (connective.combine reading) link left
        (tokens.drop position))
      (step reading tokens
        ⟨.returned left, .chain connective none :: stack, { position, depth }⟩) := by
  -- Every link passes some of the tokens that are left.
  induction size : tokens.length - position using Nat.strongRecOn generalizing left position with
  | ind size ih =>
    rcases step_link_cases reading tokens stack { position, depth } connective left with
      ⟨absent, same⟩ | ⟨more, taken, same⟩
    · rw [same, Grammar.chainRest_none absent]
      exact .ends (.returned within)
    · rw [same, Grammar.chainRest_some taken]
      refine (links (.chain connective (some left) :: stack) (position + 1) more).call
        fun right after within ran => ?_
      cases combined : connective.combine reading left right with
      | error fault =>
        rw [step_refused reading tokens stack _ combined]
        exact .ends (.failed (List.suffix_cons _ _))
      | ok joined =>
        rw [step_joined reading tokens stack _ combined]
        have shorter := link.shortens ran
        simp only [List.length_drop] at shorter
        exact ih (tokens.length - after) (by omega) joined within rfl

theorem chain_follows (connective : Connective)
    (links : Follows reading tokens (linkProcedure connective) depth link.run) :
    Follows reading tokens (chainProcedure connective) depth
      (Grammar.chain connective.word (connective.combine reading) link).run := by
  intro stack position within
  have called (cursor : Cursor) :
      step reading tokens ⟨.call (chainProcedure connective), stack, cursor⟩ =
        ⟨.call (linkProcedure connective), .chain connective none :: stack, cursor⟩ := by
    cases connective <;> rfl
  rw [called]
  exact (links (.chain connective none :: stack) position within).call
    fun left position within _ => chainRest_comes links stack left within

theorem conjunction_follows (insides : FollowsInside reading tokens depth inside) :
    Follows reading tokens .conjunction depth (Grammar.conjunction reading inside).run :=
  let link : Parser α := {
    run := Grammar.negation reading inside
    shortens := Grammar.negation_shortens }
  have links : Follows reading tokens .negation depth link.run := negation_follows insides
  chain_follows .and links

theorem disjunction_follows (insides : FollowsInside reading tokens depth inside) :
    Follows reading tokens .disjunction depth (Grammar.disjunction reading inside).run :=
  have links : Follows reading tokens .conjunction depth (Grammar.conjunction reading inside).run :=
    conjunction_follows insides
  chain_follows .or links

end Procedures

theorem inside_follows (levels : Nat) {depth : Int} (left : depth + levels = maxNesting) :
    FollowsInside reading tokens depth (Grammar.inside reading levels) := by
  induction levels generalizing depth with
  | zero => exact Int.le_of_eq (by omega)
  | succ levels ih =>
    refine ⟨by omega, ?_⟩
    rw [Grammar.expression_eq_disjunction]
    exact disjunction_follows (ih (by omega))

theorem procedure_follows (procedure : Procedure) (levels : Nat) {depth : Int}
    (left : depth + levels = maxNesting) :
    Follows reading tokens procedure depth (procedure.run reading levels) := by
  have insides : FollowsInside reading tokens depth (Grammar.inside reading levels) :=
    inside_follows levels left
  cases procedure with
  | disjunction => exact disjunction_follows insides
  | conjunction => exact conjunction_follows insides
  | negation => exact negation_follows insides
  | operand => exact operand_follows insides
  | atom => exact leaf_follows

theorem Comes.exists_end {stack : List (Frame α)} {depth : Int}
    {outcome : Except RuleError (α × List String)} {state : State α}
    (comes : Comes reading tokens stack depth outcome state) {start : Nat}
    (reached : run reading tokens start = state) :
    ∃ finish, start ≤ finish ∧ Ends tokens stack depth outcome (run reading tokens finish) ∧
      ∀ between, start ≤ between → between < finish →
        (run reading tokens between).Running ∧ (run reading tokens between).Inside stack := by
  induction comes generalizing start with
  | ends ends =>
    subst reached
    exact ⟨start, Nat.le_refl _, ends, fun between _ _ => by omega⟩
  | step running inside comes ih =>
    subst reached
    obtain ⟨finish, order, ends, inBetween⟩ := ih (run_succ reading tokens start)
    refine ⟨finish, Nat.le_of_succ_le order, ends, fun between above below => ?_⟩
    rcases Nat.eq_or_lt_of_le above with rfl | later
    · exact ⟨running, inside⟩
    · exact inBetween between later below

section Ends

variable {stack : List (Frame α)} {depth : Int} {state : State α}

theorem Ends.not_running {outcome : Except RuleError (α × List String)}
    (ends : Ends tokens [] depth outcome state) : ¬state.Running := by
  cases ends with
  | returned within => exact fun running => running rfl
  | failed inside => exact id

theorem Ends.of_returned {procedure : Procedure} {levels start : Nat}
    (ends : Ends tokens stack depth (procedure.run reading levels (tokens.drop start)) state)
    {value : α} (returned : state.control = .returned value) :
    state.stack = stack ∧ state.cursor.depth = depth ∧ start < state.cursor.position := by
  generalize ran : procedure.run reading levels (tokens.drop start) = outcome at ends
  cases ends with
  | @returned value position within =>
    have shorter := procedure.run_shortens ran
    simp only [List.length_drop] at shorter
    refine ⟨rfl, rfl, ?_⟩
    dsimp only
    omega
  | failed inside => cases returned

end Ends

theorem run_call_ends {start : Nat} {procedure : Procedure} {stack : List (Frame α)}
    {cursor : Cursor} (called : run reading tokens start = ⟨.call procedure, stack, cursor⟩) :
    ∃ finish, start < finish ∧
      Ends tokens stack cursor.depth
        (procedure.run reading (maxNesting - openGroups stack) (tokens.drop cursor.position))
        (run reading tokens finish) ∧
      ∀ between, start < between → between < finish →
        (run reading tokens between).Running ∧ (run reading tokens between).Inside stack := by
  obtain ⟨within, depth, shallow, -, -⟩ := called ▸ sound_run reading tokens start
  dsimp only at within depth shallow
  have levels : cursor.depth + ↑(maxNesting - openGroups stack) = maxNesting := by omega
  have follows : Follows reading tokens procedure cursor.depth
      (procedure.run reading (maxNesting - openGroups stack)) :=
    procedure_follows procedure _ levels
  have reached : run reading tokens (start + 1) =
      step reading tokens ⟨.call procedure, stack, cursor⟩ := by
    rw [run_succ, called]
  exact (follows stack cursor.position within).exists_end reached

theorem run_expression_ends (reading : Reading α) (tokens : List String) :
    ∃ finish, finish ≤ 8 * tokens.length + 10 ∧
      Ends tokens [] 0 ((Grammar.expression reading maxNesting).run tokens)
        (run reading tokens finish) := by
  obtain ⟨finish, -, ends, inBetween⟩ := run_call_ends (rfl : run reading tokens 0 = initial)
  refine ⟨finish, ?_, ?_⟩
  · have bound : finish + potential tokens (run reading tokens finish) ≤
        potential tokens (initial : State α) := by
      refine run_potential_le fun between below => ?_
      rcases Nat.eq_zero_or_pos between with rfl | positive
      · trivial
      · exact (inBetween between positive below).1
    have first : potential tokens (initial : State α) = 8 * tokens.length + 10 := by
      simp [potential, initial, rank]
    omega
  · rw [Grammar.expression_eq_disjunction]
    exact ends

/-- A descent stays within the tokens and never moves back, its depth is the number of open groups,
and neither groups nor calls of a disjunction are nested too deep. Every call comes to what its
function says of the tokens left: either it returns, as deep as it was made and after at least one
token, or the descent fails inside it. The whole descent takes few steps. -/
theorem cursor_sound_and_total (reading : Reading α) (tokens : List String) :
    (∀ steps,
      (run reading tokens steps).cursor.position ≤ tokens.length ∧
      (run reading tokens steps).cursor.depth = openGroups (run reading tokens steps).stack ∧
      0 ≤ (run reading tokens steps).cursor.depth ∧
      (run reading tokens steps).cursor.depth ≤ maxNesting ∧
      (run reading tokens steps).calls.count .disjunction ≤ maxNesting + 1 ∧
      ∀ later, steps ≤ later →
        (run reading tokens steps).cursor.position ≤ (run reading tokens later).cursor.position) ∧
    (∀ start procedure stack cursor,
      run reading tokens start = ⟨.call procedure, stack, cursor⟩ →
      ∃ finish, start < finish ∧
        Ends tokens stack cursor.depth
          (procedure.run reading (maxNesting - openGroups stack) (tokens.drop cursor.position))
          (run reading tokens finish) ∧
        (∀ between, start < between → between < finish →
          (run reading tokens between).Running ∧ (run reading tokens between).Inside stack) ∧
        ∀ value, (run reading tokens finish).control = .returned value →
          (run reading tokens finish).stack = stack ∧
          (run reading tokens finish).cursor.depth = cursor.depth ∧
          cursor.position < (run reading tokens finish).cursor.position) ∧
    ∃ finish, finish ≤ 8 * tokens.length + 10 ∧
      Ends tokens [] 0 ((Grammar.expression reading maxNesting).run tokens)
        (run reading tokens finish) ∧
      ∀ later, finish ≤ later → run reading tokens later = run reading tokens finish := by
  refine ⟨fun steps => ?_, ?_, ?_⟩
  · have sound := sound_run reading tokens steps
    have shallow := sound.shallow
    refine ⟨sound.within, sound.depth, ?_, ?_, ?_, fun later => run_position_le reading tokens⟩
    · rw [sound.depth]
      exact Int.natCast_nonneg _
    · rw [sound.depth]
      exact Int.ofNat_le.mpr shallow
    · exact Nat.le_trans sound.count_disjunction_le (Nat.succ_le_succ shallow)
  · intro start procedure stack cursor called
    obtain ⟨finish, order, ends, inBetween⟩ := run_call_ends called
    exact ⟨finish, order, ends, inBetween, fun value => ends.of_returned⟩
  · obtain ⟨finish, bound, ends⟩ := run_expression_ends reading tokens
    exact ⟨finish, bound, ends, fun later => run_of_halted ends.not_running⟩

theorem cursor_inside_group (reading : Reading α) :
    ∃ finish, 4 < finish ∧
      Ends ["(", "A", ")"] [.group, .negation false, .chain .and none, .chain .or none] 1
        (Procedure.disjunction.run reading 255 ["A", ")"])
        (run reading ["(", "A", ")"] finish) := by
  have called : run reading ["(", "A", ")"] 4 =
      ⟨.call .disjunction, [.group, .negation false, .chain .and none, .chain .or none],
        { position := 1, depth := 1 }⟩ := rfl
  obtain ⟨finish, order, ends, -, -⟩ :=
    (cursor_sound_and_total reading ["(", "A", ")"]).2.1 4 _ _ _ called
  exact ⟨finish, order, ends⟩

end Verdict.Descent
