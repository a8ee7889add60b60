import Verdict.Proofs.Descent.Procedure

/-!
A cursor over the tokens, with what the descent does to it: it takes tokens and it enters and leaves
groups. The actions on tokens do what the functions over the remaining tokens do.
-/

namespace Verdict.Descent

open Grammar (endsAtom requireWord takeWord)
open Text (sameFolded)

structure Cursor where
  position : Nat
  depth : Int

def Cursor.advance (cursor : Cursor) : Cursor :=
  { cursor with position := cursor.position + 1 }

abbrev Action (β : Type) : Type :=
  ExceptT RuleError (StateM Cursor) β

section Actions

variable (tokens : List String)

def next : Action String := fun cursor =>
  match tokens[cursor.position]? with
  | some token => (.ok token, cursor.advance)
  | none => (.error .unexpectedEnd, cursor)

def eat (word : String) : Action Bool := fun cursor =>
  match tokens[cursor.position]? with
  | some token =>
    if sameFolded token word then (.ok true, cursor.advance) else (.ok false, cursor)
  | none => (.ok false, cursor)

def missing {β : Type} (word : String) : Action β := fun cursor =>
  (.error (.expectedToken word tokens[cursor.position]?), cursor)

def expect (word : String) : Action Unit := do
  if ← eat tokens word then pure () else missing tokens word

def atOperandEnd : Action Bool := fun cursor =>
  match tokens[cursor.position]? with
  | some token => (.ok (token == ")" || sameFolded token "AND" || sameFolded token "OR"), cursor)
  | none => (.ok true, cursor)

def enterGroup : Action Unit := fun cursor =>
  if cursor.depth ≥ maxNesting then
    (.error (.nestingTooDeep maxNesting), cursor)
  else
    (.ok (), { cursor with depth := cursor.depth + 1 })

def leaveGroup : Action Unit := fun cursor =>
  (.ok (), { cursor with depth := cursor.depth - 1 })

def openGroup : Action Bool := do
  if ← eat tokens "(" then
    enterGroup
    pure true
  else
    pure false

def closeGroup : Action Unit := do
  expect tokens ")"
  leaveGroup

def comparison (name : String) : Action Atom := do
  let symbol ← next tokens
  match Operator.ofToken? symbol with
  | none => throw (.unknownOperator symbol)
  | some operator =>
    let literal ← next tokens
    pure (.compare name operator (Value.ofToken literal))

def atom : Action Atom := do
  let name ← next tokens
  if ← atOperandEnd tokens then
    pure (.bare name)
  else if ← eat tokens "NOT" then
    expect tokens "NULL"
    pure (.present name)
  else if ← eat tokens "NULL" then
    pure (.absent name)
  else
    comparison tokens name

end Actions

def leaf {α : Type} (reading : Reading α) (tokens : List String) : Action α := do
  let found ← atom tokens
  ExceptT.mk (pure (reading.atom found))

section Cursors

variable {tokens : List String} {β γ : Type} {action : Action β} {further : β → Action γ}
  {cursor after : Cursor}

theorem bind_ok {value : β} (ran : action cursor = (.ok value, after)) :
    (action >>= further) cursor = further value after := by
  change ExceptT.bindCont further (action cursor).1 (action cursor).2 = _
  rw [ran]
  rfl

theorem bind_error {fault : RuleError} (ran : action cursor = (.error fault, after)) :
    (action >>= further) cursor = (.error fault, after) := by
  change ExceptT.bindCont further (action cursor).1 (action cursor).2 = _
  rw [ran]
  rfl

theorem next_cases (tokens : List String) (cursor : Cursor) :
    (tokens.drop cursor.position = [] ∧ tokens[cursor.position]? = none) ∨
      ∃ token, cursor.position < tokens.length ∧ tokens[cursor.position]? = some token ∧
        tokens.drop cursor.position = token :: tokens.drop cursor.advance.position := by
  by_cases more : cursor.position < tokens.length
  · exact .inr ⟨_, more, List.getElem?_eq_getElem more, List.drop_eq_getElem_cons more⟩
  · exact .inl ⟨List.drop_eq_nil_of_le (Nat.not_lt.mp more), List.getElem?_eq_none (by omega)⟩

theorem eat_cases (tokens : List String) (word : String) (cursor : Cursor) :
    (takeWord word (tokens.drop cursor.position) = none ∧
        eat tokens word cursor = (.ok false, cursor)) ∨
      (cursor.position < tokens.length ∧
        takeWord word (tokens.drop cursor.position) = some (tokens.drop cursor.advance.position) ∧
        eat tokens word cursor = (.ok true, cursor.advance)) := by
  unfold eat
  rcases next_cases tokens cursor with ⟨shape, none⟩ | ⟨token, more, found, shape⟩
  · rw [shape, none]
    exact .inl ⟨rfl, rfl⟩
  · rw [shape, found]
    by_cases same : sameFolded token word
    · exact .inr ⟨more, if_pos same, if_pos same⟩
    · exact .inl ⟨if_neg same, if_neg same⟩

theorem expect_cases (tokens : List String) (word : String) (cursor : Cursor) :
    (∃ fault, requireWord word (tokens.drop cursor.position) = .error fault ∧
        expect tokens word cursor = (.error fault, cursor)) ∨
      (cursor.position < tokens.length ∧
        requireWord word (tokens.drop cursor.position) =
          .ok (tokens.drop cursor.advance.position) ∧
        expect tokens word cursor = (.ok (), cursor.advance)) := by
  unfold expect requireWord
  rcases eat_cases tokens word cursor with ⟨absent, ran⟩ | ⟨more, taken, ran⟩
  · refine .inl ⟨_, by rw [absent], ?_⟩
    rw [bind_ok ran, List.head?_drop]
    rfl
  · exact .inr ⟨more, by rw [taken], bind_ok ran⟩

theorem atOperandEnd_eq (tokens : List String) (cursor : Cursor) :
    atOperandEnd tokens cursor = (.ok (endsAtom (tokens.drop cursor.position)), cursor) := by
  unfold atOperandEnd
  rcases next_cases tokens cursor with ⟨shape, none⟩ | ⟨token, more, found, shape⟩
  · rw [shape, none]
    rfl
  · rw [shape, found]
    rfl

/-- The tokens that an action leaves are those from the cursor on; it fails and succeeds together
with a step over them. It moves forward, not beyond the last token, and keeps the depth. -/
inductive Agrees (tokens : List String) (before : Cursor) :
    Except RuleError (β × List String) → Except RuleError β × Cursor → Prop
  | ok {value : β} {position : Nat} (forward : before.position ≤ position)
      (within : position ≤ tokens.length) :
      Agrees tokens before (.ok (value, tokens.drop position))
        (.ok value, { before with position })
  | error {fault : RuleError} {position : Nat} (forward : before.position ≤ position)
      (within : position ≤ tokens.length) :
      Agrees tokens before (.error fault) (.error fault, { before with position })

namespace Agrees

variable {outcome : Except RuleError (β × List String)} {result : Except RuleError β × Cursor}

theorem weaken (agrees : Agrees tokens cursor.advance outcome result) :
    Agrees tokens cursor outcome result := by
  cases agrees with
  | ok forward within => exact .ok (Nat.le_of_succ_le forward) within
  | error forward within => exact .error (Nat.le_of_succ_le forward) within

end Agrees

theorem next_of_none (ended : tokens[cursor.position]? = none) :
    next tokens cursor = (.error .unexpectedEnd, cursor) := by
  rw [next, ended]

theorem next_of_some {token : String} (found : tokens[cursor.position]? = some token) :
    next tokens cursor = (.ok token, cursor.advance) := by
  rw [next, found]

theorem expect_agrees (word : String) (value : β) (within : cursor.position ≤ tokens.length) :
    Agrees tokens cursor
      (requireWord word (tokens.drop cursor.position) >>= fun rest => .ok (value, rest))
      ((expect tokens word >>= fun _ => pure value) cursor) := by
  rcases expect_cases tokens word cursor with ⟨fault, failed, ran⟩ | ⟨more, passed, ran⟩
  · rw [failed, bind_error ran]
    exact .error (Nat.le_refl _) within
  · rw [passed, bind_ok ran]
    exact .ok (Nat.le_succ _) more

theorem comparison_agrees (name : String) (within : cursor.position ≤ tokens.length) :
    Agrees tokens cursor (Grammar.comparison name (tokens.drop cursor.position))
      (comparison tokens name cursor) := by
  unfold comparison Grammar.comparison
  rcases next_cases tokens cursor with ⟨shape, ended⟩ | ⟨symbol, more, found, shape⟩
  · rw [shape, bind_error (next_of_none ended)]
    exact .error (Nat.le_refl _) within
  · rw [shape, bind_ok (next_of_some found)]
    apply Agrees.weaken
    have inside : cursor.advance.position ≤ tokens.length := more
    cases known : Operator.ofToken? symbol with
    | none =>
      simp only [known]
      exact .error (Nat.le_refl _) inside
    | some operator =>
      simp only [known]
      rcases next_cases tokens cursor.advance with ⟨shape, ended⟩ | ⟨literal, more, found, shape⟩
      · rw [shape, bind_error (next_of_none ended)]
        exact .error (Nat.le_refl _) inside
      · rw [shape, bind_ok (next_of_some found)]
        exact .ok (Nat.le_succ _) more

theorem atom_agrees (within : cursor.position ≤ tokens.length) :
    Agrees tokens cursor (Grammar.atom (tokens.drop cursor.position)) (atom tokens cursor) := by
  unfold atom Grammar.atom
  rcases next_cases tokens cursor with ⟨shape, ended⟩ | ⟨name, more, found, shape⟩
  · rw [shape, bind_error (next_of_none ended)]
    exact .error (Nat.le_refl _) within
  · rw [shape, bind_ok (next_of_some found), bind_ok (atOperandEnd_eq tokens cursor.advance)]
    apply Agrees.weaken
    have inside : cursor.advance.position ≤ tokens.length := more
    cases ends : endsAtom (tokens.drop cursor.advance.position) with
    | true =>
      simp only [ends]
      exact .ok (Nat.le_refl _) inside
    | false =>
      simp only [ends]
      rcases eat_cases tokens "NOT" cursor.advance with ⟨absent, ran⟩ | ⟨more, taken, ran⟩
      · simp only [absent]
        change Agrees tokens _ _ ((eat tokens "NOT" >>= _) _)
        rw [bind_ok ran]
        rcases eat_cases tokens "NULL" cursor.advance with ⟨absent, ran⟩ | ⟨more, taken, ran⟩
        · simp only [absent]
          change Agrees tokens _ _ ((eat tokens "NULL" >>= _) _)
          rw [bind_ok ran]
          exact comparison_agrees name inside
        · simp only [taken]
          change Agrees tokens _ _ ((eat tokens "NULL" >>= _) _)
          rw [bind_ok ran]
          exact .ok (Nat.le_succ _) more
      · simp only [taken]
        change Agrees tokens _ _ ((eat tokens "NOT" >>= _) _)
        rw [bind_ok ran]
        have past : cursor.advance.advance.position ≤ tokens.length := more
        exact (expect_agrees "NULL" (Atom.present name) past).weaken

theorem leaf_agrees {α : Type} (reading : Reading α) (within : cursor.position ≤ tokens.length) :
    Agrees tokens cursor (Grammar.leaf reading (tokens.drop cursor.position))
      (leaf reading tokens cursor) := by
  have agrees := atom_agrees within
  unfold leaf Grammar.leaf
  generalize Grammar.atom (tokens.drop cursor.position) = outcome at agrees ⊢
  generalize ran : atom tokens cursor = result at agrees
  cases agrees with
  | error forward within =>
    rw [bind_error ran]
    exact .error forward within
  | @ok found position forward within =>
    rw [bind_ok ran]
    change Agrees tokens cursor (reading.atom found >>= fun value =>
      .ok (value, tokens.drop position)) (reading.atom found, { cursor with position })
    cases reading.atom found with
    | error fault => exact .error forward within
    | ok value => exact .ok forward within

end Cursors

end Verdict.Descent
