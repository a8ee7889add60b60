import Verdict.Proofs.Grammar.Recognition

/-!
Two readings of the same tokens. The descent never looks at the values it combines, so it takes the
same way for both until one of them stops at a part of the expression; a fault of the grammar is
found by both or by neither.
-/

namespace Verdict

namespace Grammar

variable {α β : Type}

/-- What two readings make of one part of an expression. An atom has its variable among the tokens;
the values that are joined may be any. -/
inductive Part (first : Reading α) (second : Reading β) (tokens : List String) :
    Except RuleError α → Except RuleError β → Prop
  | atom {leaf : Atom} : leaf.name ∈ tokens →
      Part first second tokens (first.atom leaf) (second.atom leaf)
  | joined (connective : Connective) (left right : α) (otherLeft otherRight : β) :
      Part first second tokens (connective.combine first left right)
        (connective.combine second otherLeft otherRight)

inductive Lockstep (first : Reading α) (second : Reading β) (tokens : List String) {γ δ : Type}
    (Agree : γ → δ → Prop) : Except RuleError γ → Except RuleError δ → Prop
  | agree {left right} : Agree left right →
      Lockstep first second tokens Agree (.ok left) (.ok right)
  | malformed {fault} : Lockstep first second tokens Agree (.error fault) (.error fault)
  | firstStops {fault value outcome} : Part first second tokens (.error fault) (.ok value) →
      Lockstep first second tokens Agree (.error fault) outcome
  | secondStops {fault value outcome} : Part first second tokens (.ok value) (.error fault) →
      Lockstep first second tokens Agree outcome (.error fault)
  | bothStop {fault other} : Part first second tokens (.error fault) (.error other) →
      Lockstep first second tokens Agree (.error fault) (.error other)

variable {first : Reading α} {second : Reading β} {tokens larger : List String}

theorem Part.widen {left : Except RuleError α} {right : Except RuleError β}
    (part : Part first second tokens left right) (within : tokens ⊆ larger) :
    Part first second larger left right := by
  cases part with
  | atom named => exact .atom (within named)
  | joined connective left right otherLeft otherRight => exact .joined connective _ _ _ _

namespace Lockstep

section

variable {γ δ γ' δ' : Type} {Agree : γ → δ → Prop} {Agree' : γ' → δ' → Prop}
  {left : Except RuleError γ} {right : Except RuleError δ}

theorem bind (start : Lockstep first second tokens Agree left right)
    {next : γ → Except RuleError γ'} {otherNext : δ → Except RuleError δ'}
    (continued : ∀ value other, left = .ok value → Agree value other →
      Lockstep first second tokens Agree' (next value) (otherNext other)) :
    Lockstep first second tokens Agree' (left >>= next) (right >>= otherNext) := by
  cases start with
  | agree related => exact continued _ _ rfl related
  | malformed => exact .malformed
  | firstStops part => exact .firstStops part
  | secondStops part => exact .secondStops part
  | bothStop part => exact .bothStop part

theorem widen (run : Lockstep first second tokens Agree left right) (within : tokens ⊆ larger) :
    Lockstep first second larger Agree left right := by
  cases run with
  | agree related => exact .agree related
  | malformed => exact .malformed
  | firstStops part => exact .firstStops (part.widen within)
  | secondStops part => exact .secondStops (part.widen within)
  | bothStop part => exact .bothStop (part.widen within)

theorem weaken (run : Lockstep first second tokens Agree left right)
    {Weaker : γ → δ → Prop} (implied : ∀ value other, Agree value other → Weaker value other) :
    Lockstep first second tokens Weaker left right := by
  cases run with
  | agree related => exact .agree (implied _ _ related)
  | malformed => exact .malformed
  | firstStops part => exact .firstStops part
  | secondStops part => exact .secondStops part
  | bothStop part => exact .bothStop part

theorem refl (outcome : Except RuleError γ) {Agree : γ → γ → Prop}
    (related : ∀ value, outcome = .ok value → Agree value value) :
    Lockstep first second tokens Agree outcome outcome := by
  cases outcome with
  | error fault => exact .malformed
  | ok value => exact .agree (related value rfl)

end

theorem ofPart {left : Except RuleError α} {right : Except RuleError β}
    (part : Part first second tokens left right) :
    Lockstep first second tokens (fun _ _ => True) left right := by
  cases left with
  | error fault =>
    cases right with
    | error other => exact .bothStop part
    | ok value => exact .firstStops part
  | ok value =>
    cases right with
    | error other => exact .secondStops part
    | ok other => exact .agree trivial

end Lockstep

def SameRest (tokens : List String) (left : α × List String) (right : β × List String) : Prop :=
  left.2 = right.2 ∧ left.2 ⊆ tokens

theorem takeWord_subset {word : String} {rest : List String}
    (taken : takeWord word tokens = some rest) : rest ⊆ tokens := by
  obtain ⟨keyword, rfl⟩ := takeWord_eq_some_iff.mp taken
  exact List.subset_cons_self _ _

def Together (first : Reading α) (second : Reading β)
    (run : List String → Except RuleError (α × List String))
    (other : List String → Except RuleError (β × List String)) : Prop :=
  ∀ tokens, Lockstep first second tokens (SameRest tokens) (run tokens) (other tokens)

theorem Together.continue {run : List String → Except RuleError (α × List String)}
    {other : List String → Except RuleError (β × List String)}
    (together : Together first second run other) {rest : List String} (within : rest ⊆ tokens) :
    Lockstep first second tokens (SameRest tokens) (run rest) (other rest) :=
  ((together rest).widen within).weaken fun _ _ same =>
    ⟨same.1, List.Subset.trans same.2 within⟩

def TogetherInside (first : Reading α) (second : Reading β) :
    Option (Parser α) → Option (Parser β) → Prop
  | none, none => True
  | some inside, some other => Together first second inside.run other.run
  | _, _ => False

section Descent

variable {inside : Option (Parser α)} {otherInside : Option (Parser β)}

theorem requireWord_lockstep (word : String) {rest : List String} (within : rest ⊆ tokens) :
    Lockstep first second tokens (fun left right => left = right ∧ left ⊆ tokens)
      (requireWord word rest) (requireWord word rest) := by
  apply Lockstep.refl
  intro afterWord found
  have subset := takeWord_subset (requireWord_eq_ok_iff.mp found)
  exact ⟨rfl, List.Subset.trans subset within⟩

theorem atom_lockstep (tokens : List String) :
    Lockstep first second tokens
      (fun left right => left = right ∧ left.1.name ∈ tokens ∧ left.2 ⊆ tokens)
      (atom tokens) (atom tokens) := by
  apply Lockstep.refl
  rintro ⟨leaf, rest⟩ found
  obtain ⟨name, condition, rfl, rfl⟩ := atom_sound found
  refine ⟨rfl, ?_, ?_⟩
  · cases condition <;> exact List.mem_cons_self
  · exact List.subset_cons_of_subset _ (List.subset_append_right _ _)

theorem operand_together (insides : TogetherInside first second inside otherInside) :
    Together first second (operand first inside) (operand second otherInside) := by
  intro tokens
  unfold operand
  cases opening : takeWord "(" tokens with
  | some afterOpening =>
    cases inside with
    | none =>
      cases otherInside with
      | none => exact .malformed
      | some other => exact insides.elim
    | some parser =>
      cases otherInside with
      | none => exact insides.elim
      | some other =>
        apply (Together.continue insides (takeWord_subset opening)).bind
        rintro ⟨value, rest⟩ ⟨otherValue, otherRest⟩ - ⟨same, within⟩
        cases same
        apply (requireWord_lockstep ")" within).bind
        rintro afterClosing _ - ⟨rfl, subset⟩
        exact .agree ⟨rfl, subset⟩
  | none =>
    apply (atom_lockstep tokens).bind
    rintro ⟨leaf, rest⟩ _ - ⟨rfl, named, within⟩
    apply (Lockstep.ofPart (.atom named)).bind
    intro value otherValue _ _
    exact .agree ⟨rfl, within⟩

theorem negation_together (insides : TogetherInside first second inside otherInside) :
    Together first second (negation first inside) (negation second otherInside) := by
  intro tokens
  unfold negation
  cases taken : takeWord "NOT" tokens with
  | none => exact operand_together insides tokens
  | some rest =>
    apply ((operand_together insides).continue (takeWord_subset taken)).bind
    rintro ⟨value, rest⟩ ⟨otherValue, otherRest⟩ - ⟨same, within⟩
    exact .agree ⟨same, within⟩

variable {link : Parser α} {otherLink : Parser β}

theorem chainRest_together (connective : Connective)
    (links : Together first second link.run otherLink.run) (left : α) (otherLeft : β) :
    Together first second
      (chainRest connective.word (connective.combine first) link left)
      (chainRest connective.word (connective.combine second) otherLink otherLeft) := by
  intro tokens
  induction size : tokens.length using Nat.strongRecOn generalizing left otherLeft tokens with
  | ind size ih =>
    cases taken : takeWord connective.word tokens with
    | none =>
      rw [chainRest_none taken, chainRest_none taken]
      exact .agree ⟨rfl, List.Subset.refl _⟩
    | some afterWord =>
      have shorter := takeWord_shortens taken
      rw [chainRest_some taken, chainRest_some taken]
      apply (links.continue (takeWord_subset taken)).bind
      rintro ⟨right, rest⟩ ⟨otherRight, otherRest⟩ ran ⟨same, within⟩
      cases same
      apply (Lockstep.ofPart (.joined connective left right otherLeft otherRight)).bind
      intro value otherValue _ _
      have less := link.shortens ran
      have further := ih rest.length (by omega) value otherValue rest rfl
      exact (further.widen within).weaken fun _ _ same =>
        ⟨same.1, List.Subset.trans same.2 within⟩

theorem chain_together (connective : Connective)
    (links : Together first second link.run otherLink.run) :
    Together first second
      (chain connective.word (connective.combine first) link).run
      (chain connective.word (connective.combine second) otherLink).run := by
  intro tokens
  apply (links tokens).bind
  rintro ⟨left, rest⟩ ⟨otherLeft, otherRest⟩ - ⟨same, within⟩
  cases same
  exact (chainRest_together connective links left otherLeft).continue within

theorem disjunction_together (insides : TogetherInside first second inside otherInside) :
    Together first second (disjunction first inside).run (disjunction second otherInside).run :=
  have conjunctions :
      Together first second (conjunction first inside).run (conjunction second otherInside).run :=
    let link : Parser α := { run := negation first inside, shortens := negation_shortens }
    let otherLink : Parser β :=
      { run := negation second otherInside, shortens := negation_shortens }
    have links : Together first second link.run otherLink.run := negation_together insides
    chain_together .and links
  chain_together .or conjunctions

end Descent

theorem expression_together (first : Reading α) (second : Reading β) (levels : Nat) :
    Together first second (expression first levels).run (expression second levels).run := by
  induction levels with
  | zero =>
    have insides : TogetherInside first second none none := trivial
    exact disjunction_together insides
  | succ levels ih =>
    have insides : TogetherInside first second (some (expression first levels))
        (some (expression second levels)) := ih
    exact disjunction_together insides

end Grammar

theorem Reading.read_lockstep {α β : Type} (first : Reading α) (second : Reading β)
    (text : String) :
    Grammar.Lockstep first second (tokenize text) (fun _ _ => True)
      (first.read text) (second.read text) := by
  apply (Grammar.expression_together first second maxNesting (tokenize text)).bind
  rintro ⟨value, rest⟩ ⟨otherValue, otherRest⟩ - ⟨same, -⟩
  cases same
  cases rest with
  | nil => exact .agree trivial
  | cons token rest => exact .malformed

end Verdict
