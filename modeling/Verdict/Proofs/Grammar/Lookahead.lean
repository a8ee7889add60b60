import Verdict.Proofs.Grammar.Recognition

/-! The descent looks at one token at a time and never goes back. So unless it comes to the end of
the tokens, it does the same whatever follows them. -/

namespace Verdict

inductive RuleError.Located : RuleError → Prop
  | unexpected (expected token : String) : Located (.expectedToken expected (some token))
  | operator (token : String) : Located (.unknownOperator token)
  | trailing (token : String) : Located (.trailingToken token)
  | nesting : Located (.nestingTooDeep maxNesting)

namespace Grammar

variable {α β : Type} {tokens more : List String}

inductive Exhausted : Except RuleError (α × List String) → Prop
  | taken (value : α) : Exhausted (.ok (value, []))
  | failed {fault : RuleError} (unlocated : ¬fault.Located) : Exhausted (.error fault)

def followedBy (more : List String) (outcome : Except RuleError (α × List String)) :
    Except RuleError (α × List String) :=
  outcome.map fun read => (read.1, read.2 ++ more)

/-- What is done with more tokens is what was done without them, unless that came to their end. -/
def Settled (more : List String) (outcome other : Except RuleError (α × List String)) : Prop :=
  Exhausted outcome ∨ other = followedBy more outcome

def Steady (run : List String → Except RuleError (α × List String)) : Prop :=
  ∀ tokens more, Settled more (run tokens) (run (tokens ++ more))

structure Placeless (reading : Reading α) : Prop where
  atom : ∀ {leaf fault}, reading.atom leaf = .error fault → ¬fault.Located
  combine : ∀ {connective : Connective} {left right fault},
    connective.combine reading left right = .error fault → ¬fault.Located

theorem Settled.bind {outcome other : Except RuleError (α × List String)}
    {next : α × List String → Except RuleError (β × List String)}
    (start : Settled more outcome other) (ended : ∀ value, Exhausted (next (value, [])))
    (continued : ∀ value rest, outcome = .ok (value, rest) →
      Settled more (next (value, rest)) (next (value, rest ++ more))) :
    Settled more (outcome >>= next) (other >>= next) := by
  rcases start with exhausted | rfl
  · cases exhausted with
    | taken value => exact .inl (ended value)
    | failed unlocated => exact .inl (.failed unlocated)
  · cases outcome with
    | error fault => exact .inr rfl
    | ok read => exact continued read.1 read.2 rfl

theorem Exhausted.after {step : Except RuleError α}
    {next : α → Except RuleError (β × List String)}
    (unlocated : ∀ {fault}, step = .error fault → ¬fault.Located)
    (ended : ∀ value, Exhausted (next value)) : Exhausted (step >>= next) := by
  cases step with
  | error fault => exact .failed (unlocated rfl)
  | ok value => exact ended value

theorem Settled.after {step : Except RuleError α}
    {next other : α → Except RuleError (β × List String)}
    (continued : ∀ value, Settled more (next value) (other value)) :
    Settled more (step >>= next) (step >>= other) := by
  cases step with
  | error fault => exact .inr rfl
  | ok value => exact continued value

theorem takeWord_append (word first : String) (rest more : List String) :
    takeWord word (first :: rest ++ more) = (takeWord word (first :: rest)).map (· ++ more) := by
  simp only [List.cons_append, takeWord]
  split <;> rfl

theorem requireWord_exhausted (word : String) (value : α) :
    Exhausted (requireWord word [] >>= fun rest => .ok (value, rest)) :=
  .failed nofun

theorem requireWord_settled (word : String) (value : α) (tokens more : List String) :
    Settled more (requireWord word tokens >>= fun rest => .ok (value, rest))
      (requireWord word (tokens ++ more) >>= fun rest => .ok (value, rest)) := by
  cases tokens with
  | nil => exact .inl (requireWord_exhausted word value)
  | cons first rest =>
    refine .inr ?_
    rw [requireWord, requireWord, takeWord_append]
    cases takeWord word (first :: rest) <;> rfl

theorem comparison_settled (name : String) (tokens more : List String) :
    Settled more (comparison name tokens) (comparison name (tokens ++ more)) := by
  cases tokens with
  | nil => exact .inl (.failed nofun)
  | cons symbol rest =>
    cases known : Operator.ofToken? symbol with
    | none =>
      refine .inr ?_
      simp only [List.cons_append, comparison, known]
      rfl
    | some operator =>
      cases rest with
      | nil =>
        simp only [comparison, known]
        exact .inl (.failed nofun)
      | cons literal rest =>
        refine .inr ?_
        simp only [List.cons_append, comparison, known]
        rfl

theorem atom_steady : Steady atom := by
  intro tokens more
  cases tokens with
  | nil => exact .inl (.failed nofun)
  | cons name rest =>
    cases rest with
    | nil => exact .inl (.taken (Atom.bare name))
    | cons second rest =>
      -- The end of the atom and its words are sought in the second token alone.
      have ends : endsAtom (second :: rest ++ more) = endsAtom (second :: rest) := rfl
      rw [List.cons_append, atom, atom, ends, takeWord_append, takeWord_append]
      split
      · exact .inr rfl
      · cases takeWord "NOT" (second :: rest) with
        | some afterNot => exact requireWord_settled "NULL" (Atom.present name) afterNot more
        | none =>
          cases takeWord "NULL" (second :: rest) with
          | some afterNull => exact .inr rfl
          | none => exact comparison_settled name (second :: rest) more

section Descent

variable {reading : Reading α} {inside : Option (Parser α)}

theorem operand_steady (placeless : Placeless reading)
    (groups : ∀ parser, inside = some parser → Steady parser.run) :
    Steady (operand reading inside) := by
  intro tokens more
  cases tokens with
  | nil => exact .inl (.failed nofun)
  | cons first rest =>
    rw [operand, operand, takeWord_append]
    cases takeWord "(" (first :: rest) with
    | some afterOpening =>
      cases inside with
      | none => exact .inr rfl
      | some parser =>
        exact (groups parser rfl afterOpening more).bind (requireWord_exhausted ")")
          fun value rest _ => requireWord_settled ")" value rest more
    | none =>
      exact (atom_steady (first :: rest) more).bind
        (fun leaf => .after placeless.atom fun value => .taken value)
        fun leaf rest _ => .after fun value => .inr rfl

theorem negation_steady (placeless : Placeless reading)
    (groups : ∀ parser, inside = some parser → Steady parser.run) :
    Steady (negation reading inside) := by
  intro tokens more
  have operands := operand_steady placeless groups
  cases tokens with
  | nil => exact .inl (.failed nofun)
  | cons first rest =>
    rw [negation, negation, takeWord_append]
    cases takeWord "NOT" (first :: rest) with
    | some afterNot =>
      exact (operands afterNot more).bind (fun value => .taken (reading.negate value))
        fun _ _ _ => .inr rfl
    | none => exact operands (first :: rest) more

variable {connective : Connective} {link : Parser α}

theorem chainRest_steady (placeless : Placeless reading) (links : Steady link.run) (left : α) :
    Steady (chainRest connective.word (connective.combine reading) link left) := by
  intro tokens more
  -- Each link takes a token at least, so the induction is on the number of tokens.
  induction size : tokens.length using Nat.strongRecOn generalizing left tokens with
  | ind size ih =>
    subst size
    cases tokens with
    | nil =>
      rw [chainRest_none rfl]
      exact .inl (.taken left)
    | cons first rest =>
      have extended := takeWord_append connective.word first rest more
      cases taken : takeWord connective.word (first :: rest) with
      | none =>
        rw [taken] at extended
        rw [chainRest_none taken, chainRest_none extended]
        exact .inr rfl
      | some afterWord =>
        rw [taken] at extended
        rw [chainRest_some taken, chainRest_some extended]
        refine (links afterWord more).bind ?_ ?_
        · intro right
          refine .after placeless.combine fun value => ?_
          rw [chainRest_none rfl]
          exact .taken value
        · intro right afterLink ran
          refine .after fun value => ?_
          have shorter := Nat.lt_trans (link.shortens ran) (takeWord_shortens taken)
          exact ih afterLink.length shorter value afterLink rfl

theorem chain_steady (connective : Connective) (placeless : Placeless reading)
    (links : Steady link.run) :
    Steady (chain connective.word (connective.combine reading) link).run := by
  intro tokens more
  refine (links tokens more).bind ?_ ?_
  · intro left
    change Exhausted (chainRest _ _ link left [])
    rw [chainRest_none rfl]
    exact .taken left
  · intro left rest _
    exact chainRest_steady placeless links left rest more

theorem disjunction_steady (placeless : Placeless reading)
    (groups : ∀ parser, inside = some parser → Steady parser.run) :
    Steady (disjunction reading inside).run :=
  let link : Parser α := { run := negation reading inside, shortens := negation_shortens }
  have links : Steady link.run := negation_steady placeless groups
  have conjunctions : Steady (conjunction reading inside).run :=
    chain_steady .and placeless links
  chain_steady .or placeless conjunctions

end Descent

theorem expression_steady {reading : Reading α} (placeless : Placeless reading) (levels : Nat) :
    Steady (expression reading levels).run := by
  induction levels with
  | zero => exact disjunction_steady placeless nofun
  | succ levels ih =>
    apply disjunction_steady placeless
    rintro parser ⟨⟩
    exact ih

end Grammar

open Grammar (Placeless)

theorem Reading.read_located {α : Type} {reading : Reading α} (placeless : Placeless reading)
    {text longer : String} {more : List String}
    (longerTokens : tokenize longer = tokenize text ++ more) {fault : RuleError}
    (located : fault.Located) (failed : reading.read text = .error fault) :
    reading.read longer = .error fault := by
  unfold read at failed ⊢
  rw [longerTokens]
  have settled := Grammar.expression_steady placeless maxNesting (tokenize text) more
  cases ran : (Grammar.expression reading maxNesting).run (tokenize text) with
  | error other =>
    rw [ran] at settled failed
    obtain rfl := Except.error.inj failed
    rcases settled with exhausted | same
    · cases exhausted with
      | failed unlocated => exact absurd located unlocated
    · rw [same]
      rfl
  | ok outcome =>
    obtain ⟨value, rest⟩ := outcome
    rw [ran] at settled failed
    cases rest with
    | nil => cases failed
    | cons token rest =>
      rcases settled with exhausted | same
      · cases exhausted
      · rw [same]
        exact failed

end Verdict
