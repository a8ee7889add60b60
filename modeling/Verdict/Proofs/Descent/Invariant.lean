import Verdict.Proofs.Descent.Machine

/-!
`Transition` says once what a step can do to cursor and stack. From it come the invariants of a
run: where the cursor may stand, how deep it is, which calls are in progress, and how long they may
go on.
-/

namespace Verdict.Descent

variable {α : Type} {reading : Reading α} {tokens : List String}

def State.Running (state : State α) : Prop :=
  match state.control with
  | .call _ => True
  | .returned _ => state.stack ≠ []
  | .failed _ => False

/-- What a step does, but for the values and faults that it comes to. -/
inductive Transition (tokens : List String) : State α → State α → Prop
  | call {stack : List (Frame α)} {cursor : Cursor} {position : Nat} (frame : Frame α)
      (ungrouped : frame.isGroup = false) (forward : cursor.position ≤ position)
      (within : position ≤ tokens.length) :
      Transition tokens ⟨.call frame.caller, stack, cursor⟩
        ⟨.call frame.callee, frame :: stack, { cursor with position }⟩
  | opened {stack : List (Frame α)} {cursor : Cursor} (more : cursor.position < tokens.length)
      (room : cursor.depth < maxNesting) :
      Transition tokens ⟨.call .operand, stack, cursor⟩
        ⟨.call .disjunction, .group :: stack,
          { position := cursor.position + 1, depth := cursor.depth + 1 }⟩
  | leaf {stack : List (Frame α)} {cursor : Cursor} {value : α} {position : Nat}
      (forward : cursor.position < position) (within : position ≤ tokens.length) :
      Transition tokens ⟨.call .atom, stack, cursor⟩
        ⟨.returned value, stack, { cursor with position }⟩
  | link {stack : List (Frame α)} {cursor : Cursor} {connective : Connective} {left : Option α}
      {right joined : α} (more : cursor.position < tokens.length) :
      Transition tokens ⟨.returned right, .chain connective left :: stack, cursor⟩
        ⟨.call (linkProcedure connective), .chain connective (some joined) :: stack,
          cursor.advance⟩
  | returned {stack : List (Frame α)} {cursor : Cursor} {value result : α} (frame : Frame α)
      (ungrouped : frame.isGroup = false) :
      Transition tokens ⟨.returned value, frame :: stack, cursor⟩ ⟨.returned result, stack, cursor⟩
  | closed {stack : List (Frame α)} {cursor : Cursor} {value : α}
      (more : cursor.position < tokens.length) :
      Transition tokens ⟨.returned value, .group :: stack, cursor⟩
        ⟨.returned value, stack,
          { position := cursor.position + 1, depth := cursor.depth - 1 }⟩
  | failed {state : State α} {fault : RuleError} {position : Nat} (running : state.Running)
      (forward : state.cursor.position ≤ position) (within : position ≤ tokens.length) :
      Transition tokens state ⟨.failed fault, state.stack, { state.cursor with position }⟩
  | halted {state : State α} (halted : ¬state.Running) : Transition tokens state state

theorem transition_call (reading : Reading α) (procedure : Procedure) (stack : List (Frame α))
    {cursor : Cursor} (within : cursor.position ≤ tokens.length) :
    Transition tokens ⟨.call procedure, stack, cursor⟩
      (step reading tokens ⟨.call procedure, stack, cursor⟩) := by
  have here := Nat.le_refl cursor.position
  cases procedure with
  | disjunction => exact .call (.chain .or none) rfl here within
  | conjunction => exact .call (.chain .and none) rfl here within
  | negation =>
    rcases step_negation_cases reading tokens stack cursor with ⟨-, same⟩ | ⟨more, -, same⟩
    · rw [same]
      exact .call (.negation false) rfl here within
    · rw [same]
      exact .call (.negation true) rfl (Nat.le_succ _) more
  | operand =>
    rcases step_operand_cases reading tokens stack cursor with ⟨-, same⟩ | ⟨more, -, same⟩
    · rw [same]
      exact .call .atom rfl here within
    · rw [same]
      split
      · exact .failed trivial (Nat.le_succ _) more
      · rename_i room
        exact .opened more (Int.not_le.mp room)
  | atom =>
    have agrees := leaf_agrees reading within
    generalize shape : Grammar.leaf reading (tokens.drop cursor.position) = outcome at agrees
    generalize ran : leaf reading tokens cursor = result at agrees
    cases agrees with
    | error forward within =>
      rw [step_of_error (bind_error ran)]
      exact .failed trivial forward within
    | @ok value position forward within =>
      rw [step_of_ok (bind_ok ran)]
      refine .leaf ?_ within
      have shorter := Grammar.leaf_shortens shape
      simp only [List.length_drop] at shorter
      omega

theorem transition_link (reading : Reading α) (connective : Connective) (left : Option α)
    (right joined : α) (stack : List (Frame α)) (cursor : Cursor) :
    Transition tokens ⟨.returned right, .chain connective left :: stack, cursor⟩
      (step reading tokens ⟨.returned joined, .chain connective none :: stack, cursor⟩) := by
  rcases step_link_cases reading tokens stack cursor connective joined with
    ⟨-, same⟩ | ⟨more, -, same⟩
  · rw [same]
    exact .returned _ rfl
  · rw [same]
    exact .link more

theorem transition_return (reading : Reading α) (value : α) (frame : Frame α)
    (stack : List (Frame α)) {cursor : Cursor} (within : cursor.position ≤ tokens.length) :
    Transition tokens ⟨.returned value, frame :: stack, cursor⟩
      (step reading tokens ⟨.returned value, frame :: stack, cursor⟩) := by
  have running (value : α) (frame : Frame α) :
      State.Running ⟨.returned value, frame :: stack, cursor⟩ := List.cons_ne_nil frame stack
  have here := Nat.le_refl cursor.position
  cases frame with
  | chain connective left =>
    cases left with
    | none => exact transition_link reading connective none value value stack cursor
    | some left =>
      cases combined : connective.combine reading left value with
      | error fault =>
        rw [step_refused reading tokens stack cursor combined]
        exact .failed (running _ _) here within
      | ok joined =>
        rw [step_joined reading tokens stack cursor combined]
        exact transition_link reading connective (some left) value joined stack cursor
  | negation negated => exact .returned (.negation negated) rfl
  | group =>
    rcases step_group_cases reading tokens stack cursor value with
      ⟨fault, -, same⟩ | ⟨more, -, same⟩
    · rw [same]
      exact .failed (running _ _) here within
    · rw [same]
      exact .closed more
  | atom => exact .returned .atom rfl

theorem step_transition (reading : Reading α) {state : State α}
    (within : state.cursor.position ≤ tokens.length) :
    Transition tokens state (step reading tokens state) := by
  obtain ⟨control, stack, cursor⟩ := state
  cases control with
  | call procedure => exact transition_call reading procedure stack within
  | returned value =>
    cases stack with
    | nil => exact .halted fun running => running rfl
    | cons frame stack => exact transition_return reading value frame stack within
  | failed fault => exact .halted id

def openGroups (stack : List (Frame α)) : Nat :=
  stack.countP Frame.isGroup

def active : List (Frame α) → Procedure
  | [] => .disjunction
  | frame :: _ => frame.callee

def Linked : List (Frame α) → Prop
  | [] => True
  | frame :: stack => frame.caller = active stack ∧ Linked stack

/-- What holds of the machine at any time. -/
structure Sound (tokens : List String) (state : State α) : Prop where
  within : state.cursor.position ≤ tokens.length
  depth : state.cursor.depth = openGroups state.stack
  shallow : openGroups state.stack ≤ maxNesting
  linked : Linked state.stack
  called : ∀ procedure, state.control = .call procedure → procedure = active state.stack

theorem openGroups_cons_of_not {frame : Frame α} (ungrouped : frame.isGroup = false)
    (stack : List (Frame α)) : openGroups (frame :: stack) = openGroups stack :=
  List.countP_cons_of_neg (by rw [ungrouped]; exact Bool.false_ne_true)

theorem openGroups_group (stack : List (Frame α)) :
    openGroups (.group :: stack) = openGroups stack + 1 :=
  List.countP_cons_of_pos rfl

theorem sound_initial (tokens : List String) : Sound tokens (initial : State α) where
  within := Nat.zero_le _
  depth := rfl
  shallow := Nat.zero_le _
  linked := trivial
  called := by
    intro procedure same
    cases same
    rfl

theorem Transition.sound {before after : State α} (transition : Transition tokens before after)
    (sound : Sound tokens before) : Sound tokens after := by
  obtain ⟨-, depth, shallow, linked, called⟩ := id sound
  cases transition with
  | call frame ungrouped forward within =>
    have same := openGroups_cons_of_not ungrouped
    refine ⟨within, by rw [same]; exact depth, by rw [same]; exact shallow,
      ⟨called _ rfl, linked⟩, ?_⟩
    rintro procedure ⟨⟩
    rfl
  | @opened stack cursor more room =>
    have same := openGroups_group stack
    dsimp only at depth shallow
    refine ⟨more, ?_, ?_, ⟨called _ rfl, linked⟩, ?_⟩
    · rw [same, depth]
      rfl
    · rw [same]
      omega
    · rintro procedure ⟨⟩
      rfl
  | leaf forward within => exact ⟨within, depth, shallow, linked, fun _ same => by cases same⟩
  | @link stack cursor connective left right joined more =>
    refine ⟨more, depth, shallow, linked, ?_⟩
    rintro procedure ⟨⟩
    rfl
  | returned frame ungrouped =>
    rw [openGroups_cons_of_not ungrouped] at depth shallow
    exact ⟨sound.within, depth, shallow, linked.2, fun _ same => by cases same⟩
  | @closed stack cursor value more =>
    rw [openGroups_group] at depth shallow
    refine ⟨more, ?_, Nat.le_of_succ_le shallow, linked.2, fun _ same => by cases same⟩
    dsimp only at depth ⊢
    omega
  | failed running forward within =>
    exact ⟨within, depth, shallow, linked, fun _ same => by cases same⟩
  | halted => exact sound

theorem Transition.position_le {before after : State α}
    (transition : Transition tokens before after) :
    before.cursor.position ≤ after.cursor.position := by
  cases transition with
  | call frame ungrouped forward within => exact forward
  | opened more room => exact Nat.le_succ _
  | leaf forward within => exact Nat.le_of_lt forward
  | link more => exact Nat.le_succ _
  | returned frame ungrouped => exact Nat.le_refl _
  | closed more => exact Nat.le_succ _
  | failed running forward within => exact forward
  | halted => exact Nat.le_refl _

def State.calls (state : State α) : List Procedure :=
  match state.control with
  | .call procedure => procedure :: state.stack.map Frame.caller
  | _ => state.stack.map Frame.caller

theorem count_disjunction_of_linked {stack : List (Frame α)} (linked : Linked stack) :
    (active stack :: stack.map Frame.caller).count .disjunction = openGroups stack + 1 := by
  induction stack with
  | nil => rfl
  | cons frame stack ih =>
    have below := ih linked.2
    rw [List.map_cons, linked.1, List.count_cons, below]
    cases frame with
    | chain connective left =>
      rw [openGroups_cons_of_not rfl]
      cases connective <;> rfl
    | negation negated => rfl
    | group => rw [openGroups_group]; rfl
    | atom => rfl

theorem Sound.count_disjunction_le {state : State α} (sound : Sound tokens state) :
    state.calls.count .disjunction ≤ openGroups state.stack + 1 := by
  rw [← count_disjunction_of_linked sound.linked]
  obtain ⟨control, stack, cursor⟩ := state
  cases control with
  | call procedure =>
    have same : procedure = active stack := sound.called procedure rfl
    rw [same]
    exact Nat.le_refl _
  | returned value => exact List.count_le_count_cons
  | failed fault => exact List.count_le_count_cons

def rank : Procedure → Nat
  | .disjunction => 10
  | .conjunction => 8
  | .negation => 6
  | .operand => 4
  | .atom => 2

/-- A bound on the steps to come: by the tokens left, the calls that the next one leads to without
any of them, and the returns. -/
def potential (tokens : List String) (state : State α) : Nat :=
  8 * (tokens.length - state.cursor.position) + state.stack.length +
    match state.control with
    | .call procedure => rank procedure
    | .returned _ => 1
    | .failed _ => 0

theorem Transition.potential_lt {before after : State α}
    (transition : Transition tokens before after) (running : before.Running) :
    potential tokens after < potential tokens before := by
  cases transition with
  | call frame ungrouped forward within =>
    have tighter : rank frame.callee + 1 < rank frame.caller := by
      cases frame with
      | chain connective left => cases connective <;> exact Nat.lt_add_one _
      | negation negated => exact Nat.lt_add_one _
      | group => cases ungrouped
      | atom => exact Nat.lt_add_one _
    simp only [potential, List.length_cons]
    omega
  | opened more room =>
    simp only [potential, List.length_cons, rank]
    omega
  | leaf forward within =>
    simp only [potential, rank]
    omega
  | @link stack cursor connective left right joined more =>
    have tight : rank (linkProcedure connective) ≤ 8 := by cases connective <;> decide
    simp only [potential, List.length_cons, Cursor.advance]
    omega
  | returned frame ungrouped =>
    simp only [potential, List.length_cons]
    omega
  | closed more =>
    simp only [potential, List.length_cons]
    omega
  | @failed _ _ position _ forward within =>
    obtain ⟨control, stack, cursor⟩ := before
    cases control with
    | call procedure =>
      have positive : 0 < rank procedure := by cases procedure <;> decide
      simp only [potential] at forward ⊢
      omega
    | returned value =>
      simp only [potential] at forward ⊢
      omega
    | failed fault => exact running.elim
  | halted halted => exact absurd running halted

theorem run_succ (reading : Reading α) (tokens : List String) (steps : Nat) :
    run reading tokens (steps + 1) = step reading tokens (run reading tokens steps) :=
  Function.iterate_succ_apply' ..

theorem sound_run (reading : Reading α) (tokens : List String) (steps : Nat) :
    Sound tokens (run reading tokens steps) := by
  induction steps with
  | zero => exact sound_initial tokens
  | succ steps ih =>
    rw [run_succ]
    exact (step_transition reading ih.within).sound ih

theorem run_position_le (reading : Reading α) (tokens : List String) {earlier later : Nat}
    (order : earlier ≤ later) :
    (run reading tokens earlier).cursor.position ≤ (run reading tokens later).cursor.position := by
  induction order with
  | refl => exact Nat.le_refl _
  | @step later order ih =>
    have transition := step_transition reading (sound_run reading tokens later).within
    rw [Nat.succ_eq_add_one, run_succ]
    exact Nat.le_trans ih transition.position_le

theorem step_of_halted {state : State α} (halted : ¬state.Running) :
    step reading tokens state = state := by
  obtain ⟨control, stack, cursor⟩ := state
  cases control with
  | call procedure => exact absurd trivial halted
  | returned value =>
    cases stack with
    | nil => rfl
    | cons frame stack => exact absurd (List.cons_ne_nil frame stack) halted
  | failed fault => rfl

theorem run_potential_le {finish : Nat}
    (running : ∀ between, between < finish → (run reading tokens between).Running) :
    finish + potential tokens (run reading tokens finish) ≤
      potential tokens (initial : State α) := by
  induction finish with
  | zero => exact Nat.le_of_eq (Nat.zero_add _)
  | succ finish ih =>
    have before := ih fun between below => running between (Nat.lt_succ_of_lt below)
    have transition := step_transition reading (sound_run reading tokens finish).within
    have falls := transition.potential_lt (running finish (Nat.lt_succ_self _))
    rw [run_succ]
    omega

theorem run_of_halted {finish later : Nat} (halted : ¬(run reading tokens finish).Running)
    (order : finish ≤ later) : run reading tokens later = run reading tokens finish := by
  induction order with
  | refl => rfl
  | @step later order ih => rw [Nat.succ_eq_add_one, run_succ, ih, step_of_halted halted]

end Verdict.Descent
