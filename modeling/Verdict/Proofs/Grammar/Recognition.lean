import Verdict.Proofs.Grammar.Keyword

/-!
The descent reads exactly the phrases of the grammar, whatever it reads them as: `Reading.fold` says
what a tree is read as, and a phrase is read as the fold of its tree.
-/

namespace Verdict

def Reading.fold {α : Type} (reading : Reading α) : Expr → Except RuleError α
  | .atom leaf => reading.atom leaf
  | .not inner => do
    let value ← reading.fold inner
    return reading.negate value
  | .and left right => do
    let leftValue ← reading.fold left
    let rightValue ← reading.fold right
    reading.both leftValue rightValue
  | .or left right => do
    let leftValue ← reading.fold left
    let rightValue ← reading.fold right
    reading.either leftValue rightValue

namespace Grammar

open Phrase (Keyword Leaf Condition Operand Negation Chain Conjunction Disjunction Sentence)

variable {α : Type} {reading : Reading α}

theorem fold_build (connective : Connective) (left right : Expr) :
    reading.fold (connective.build left right) =
      reading.fold left >>= fun leftValue =>
        reading.fold right >>= fun rightValue =>
          connective.combine reading leftValue rightValue := by
  cases connective <;> rfl

/-- A step over tokens that reads the phrases of one form and leaves what follows them. -/
structure Recognizes (reading : Reading α)
    (run : List String → Except RuleError (α × List String)) (Form : Type) [Phrase Form]
    (Follow : List String → Prop) : Prop where
  sound : ∀ {tokens rest : List String} {value : α}, run tokens = .ok (value, rest) →
    ∃ form : Form, tokens = Phrase.tokens form ++ rest ∧
      reading.fold (Phrase.tree form) = .ok value
  complete : ∀ (form : Form) {rest : List String}, Follow rest →
    run (Phrase.tokens form ++ rest) =
      reading.fold (Phrase.tree form) >>= fun value => .ok (value, rest)

theorem atom_leaf (leaf : Leaf) {rest : List String} (ends : endsAtom rest = true) :
    atom (leaf.tokens ++ rest) = .ok (leaf.atom, rest) := by
  obtain ⟨name, notOpening, condition⟩ := leaf
  cases condition with
  | bare => simp [Leaf.tokens, Condition.tokens, atom, ends, Leaf.atom, Condition.atom]
  | absent null =>
    simp [Leaf.tokens, Condition.tokens, atom, endsAtom_keyword null (.inr rfl),
      takeWord_other null (by decide : Text.sameFolded "NULL" "NOT" = false),
      takeWord_keyword null, Leaf.atom, Condition.atom]
  | present negation null =>
    simp [Leaf.tokens, Condition.tokens, atom, endsAtom_keyword negation (.inl rfl),
      takeWord_keyword negation, requireWord, takeWord_keyword null, Leaf.atom, Condition.atom,
      bind, Except.bind]
  | compare operator literal =>
    simp [Leaf.tokens, Condition.tokens, atom, endsAtom_symbol operator,
      takeWord_symbol operator (.inl rfl), takeWord_symbol operator (.inr rfl), comparison,
      Operator.ofToken?_eq_some_iff.mpr rfl, Leaf.atom, Condition.atom]

theorem requireWord_eq_ok_iff {word : String} {tokens rest : List String} :
    requireWord word tokens = .ok rest ↔ takeWord word tokens = some rest := by
  unfold requireWord
  split
  · rename_i taken
    simp [taken]
  · rename_i missing
    simp [missing]

theorem comparison_sound {name : String} {tokens rest : List String} {value : Atom}
    (found : comparison name tokens = .ok (value, rest)) :
    ∃ operator literal, tokens = operator.symbol :: literal :: rest ∧
      value = .compare name operator (Value.ofToken literal) := by
  unfold comparison at found
  split at found
  · simp at found
  · split at found
    · simp at found
    · rename_i symbol tail operator known
      split at found
      · simp at found
      · rename_i literal after
        obtain ⟨rfl, rfl⟩ := Prod.mk.inj (Except.ok.inj found)
        exact ⟨operator, literal, by rw [Operator.ofToken?_eq_some_iff.mp known], rfl⟩

theorem atom_sound {tokens rest : List String} {value : Atom}
    (found : atom tokens = .ok (value, rest)) :
    ∃ name, ∃ condition : Condition,
      tokens = name :: (condition.tokens ++ rest) ∧ condition.atom name = value := by
  unfold atom at found
  split at found
  · simp at found
  · rename_i name tail
    refine ⟨name, ?_⟩
    split at found
    · obtain ⟨rfl, rfl⟩ := Prod.mk.inj (Except.ok.inj found)
      exact ⟨.bare, rfl, rfl⟩
    · split at found
      · rename_i afterNot takenNot
        obtain ⟨afterNull, required, found⟩ := Fallible.bind_eq_ok_iff.mp found
        obtain ⟨rfl, rfl⟩ := Prod.mk.inj (Except.ok.inj found)
        obtain ⟨negation, rfl⟩ := takeWord_eq_some_iff.mp takenNot
        obtain ⟨null, rfl⟩ := takeWord_eq_some_iff.mp (requireWord_eq_ok_iff.mp required)
        exact ⟨.present negation null, rfl, rfl⟩
      · split at found
        · rename_i afterNull takenNull
          obtain ⟨rfl, rfl⟩ := Prod.mk.inj (Except.ok.inj found)
          obtain ⟨null, rfl⟩ := takeWord_eq_some_iff.mp takenNull
          exact ⟨.absent null, rfl, rfl⟩
        · obtain ⟨operator, literal, rfl, rfl⟩ := comparison_sound found
          exact ⟨.compare operator literal, rfl, rfl⟩

def EndsOperand (rest : List String) : Prop :=
  endsAtom rest = true

def EndsChain (connective : Connective) (EndsLink : List String → Prop) (rest : List String) :
    Prop :=
  EndsLink rest ∧ takeWord connective.word rest = none

def EndsConjunction : List String → Prop :=
  EndsChain .and EndsOperand

def EndsDisjunction : List String → Prop :=
  EndsChain .or EndsConjunction

theorem endsDisjunction_nil : EndsDisjunction [] :=
  ⟨⟨rfl, rfl⟩, rfl⟩

theorem endsDisjunction_closing (rest : List String) : EndsDisjunction (")" :: rest) :=
  ⟨⟨rfl, takeWord_cons_eq_none_iff.mpr (by decide)⟩, takeWord_cons_eq_none_iff.mpr (by decide)⟩

theorem endsConjunction_or (keyword : Keyword Connective.or.word) (rest : List String) :
    EndsConjunction (keyword.token :: rest) :=
  ⟨endsAtom_connective keyword rest, takeWord_other keyword (by decide) rest⟩

def RecognizesGroups (reading : Reading α) (inside : Option (Parser α)) (Group : Type)
    [Phrase Group] : Prop :=
  match inside with
  | none => Group → False
  | some parser => Recognizes reading parser.run Group EndsDisjunction

section Operands

variable {inside : Option (Parser α)} {Group : Type} [Phrase Group]

theorem operand_sound (groups : RecognizesGroups reading inside Group)
    {tokens rest : List String} {value : α}
    (found : operand reading inside tokens = .ok (value, rest)) :
    ∃ form : Operand Group, tokens = Phrase.tokens form ++ rest ∧
      reading.fold (Phrase.tree form) = .ok value := by
  unfold operand at found
  split at found
  · rename_i afterOpening opening
    cases inside with
    | none => simp at found
    | some parser =>
      obtain ⟨⟨innerValue, afterInner⟩, ran, found⟩ := Fallible.bind_eq_ok_iff.mp found
      obtain ⟨afterClosing, closed, found⟩ := Fallible.bind_eq_ok_iff.mp found
      obtain ⟨rfl, rfl⟩ := Prod.mk.inj (Except.ok.inj found)
      obtain ⟨inner, rfl, folded⟩ := groups.sound ran
      have closing :=
        (takeWord_parenthesis_eq_some_iff (.inr rfl)).mp (requireWord_eq_ok_iff.mp closed)
      refine ⟨.group inner, ?_, folded⟩
      rw [(takeWord_parenthesis_eq_some_iff (.inl rfl)).mp opening, closing]
      simp [Phrase.tokens]
  · rename_i unopened
    obtain ⟨⟨leaf, afterAtom⟩, ran, found⟩ := Fallible.bind_eq_ok_iff.mp found
    obtain ⟨leafValue, read, found⟩ := Fallible.bind_eq_ok_iff.mp found
    obtain ⟨rfl, rfl⟩ := Prod.mk.inj (Except.ok.inj found)
    obtain ⟨name, condition, rfl, rfl⟩ := atom_sound ran
    have notOpening : name ≠ "(" := by
      rintro rfl
      simp [(takeWord_parenthesis_eq_some_iff (.inl rfl)).mpr rfl] at unopened
    exact ⟨.leaf ⟨name, notOpening, condition⟩, rfl, read⟩

theorem operand_complete (groups : RecognizesGroups reading inside Group)
    (form : Operand Group) {rest : List String} (ends : EndsOperand rest) :
    operand reading inside (Phrase.tokens form ++ rest) =
      reading.fold (Phrase.tree form) >>= fun value => .ok (value, rest) := by
  cases form with
  | group inner =>
    cases inside with
    | none => exact (groups inner).elim
    | some parser =>
      have shape : Phrase.tokens (Operand.group inner) ++ rest =
          "(" :: (Phrase.tokens inner ++ ")" :: rest) := by
        simp [Phrase.tokens]
      have ran := groups.complete inner (endsDisjunction_closing rest)
      have closed : requireWord ")" (")" :: rest) = .ok rest :=
        requireWord_eq_ok_iff.mpr ((takeWord_parenthesis_eq_some_iff (.inr rfl)).mpr rfl)
      rw [shape, operand, (takeWord_parenthesis_eq_some_iff (.inl rfl)).mpr rfl]
      simp only [ran]
      change _ = reading.fold (Phrase.tree inner) >>= _
      cases reading.fold (Phrase.tree inner) with
      | error fault => rfl
      | ok value => simp [bind, Except.bind, closed]
  | leaf written =>
    have unopened : takeWord "(" (written.tokens ++ rest) = none :=
      takeWord_opening_cons written.notOpening _
    change operand reading inside (written.tokens ++ rest) = reading.atom written.atom >>= _
    rw [operand, unopened]
    simp only [atom_leaf written ends]
    rfl

theorem operand_recognizes (groups : RecognizesGroups reading inside Group) :
    Recognizes reading (operand reading inside) (Operand Group) EndsOperand :=
  ⟨operand_sound groups, operand_complete groups⟩

theorem takeWord_operand (form : Operand Group) {word : String} (rest : List String) :
    takeWord word (Phrase.tokens form ++ rest) = none ↔
      Text.sameFolded form.opening word = false := by
  cases form <;> exact takeWord_cons_eq_none_iff

theorem negation_recognizes (groups : RecognizesGroups reading inside Group) :
    Recognizes reading (negation reading inside) (Negation Group) EndsOperand := by
  have operands := operand_recognizes groups
  constructor
  · intro tokens rest value found
    unfold negation at found
    split at found
    · rename_i afterNot taken
      obtain ⟨⟨innerValue, afterInner⟩, ran, found⟩ := Fallible.bind_eq_ok_iff.mp found
      obtain ⟨rfl, rfl⟩ := Prod.mk.inj (Except.ok.inj found)
      obtain ⟨form, rfl, folded⟩ := operands.sound ran
      obtain ⟨keyword, rfl⟩ := takeWord_eq_some_iff.mp taken
      refine ⟨.negated keyword form, rfl, ?_⟩
      change (reading.fold (Phrase.tree form) >>= fun value => pure (reading.negate value)) = _
      rw [folded]
      rfl
    · rename_i absent
      obtain ⟨form, rfl, folded⟩ := operands.sound found
      exact ⟨.plain form ((takeWord_operand form rest).mp absent), rfl, folded⟩
  · intro form rest ends
    cases form with
    | negated keyword operand =>
      have ran := operands.complete operand ends
      change negation reading inside (keyword.token :: (Phrase.tokens operand ++ rest)) =
        (reading.fold (Phrase.tree operand) >>= fun value => pure (reading.negate value)) >>= _
      rw [negation, takeWord_keyword]
      simp only [ran]
      cases reading.fold (Phrase.tree operand) <;> rfl
    | plain operand other =>
      change negation reading inside (Phrase.tokens operand ++ rest) = _
      rw [negation, (takeWord_operand operand rest).mpr other]
      exact operands.complete operand ends

end Operands

section Chains

variable {word : String} {join : α → α → Except RuleError α} {link : Parser α}

theorem chainRest_none {left : α} {tokens : List String} (absent : takeWord word tokens = none) :
    chainRest word join link left tokens = .ok (left, tokens) := by
  rw [chainRest]
  split
  · rfl
  · simp_all

theorem chainRest_some {left : α} {tokens afterWord : List String}
    (taken : takeWord word tokens = some afterWord) :
    chainRest word join link left tokens =
      link.run afterWord >>= fun read =>
        join left read.1 >>= fun value => chainRest word join link value read.2 := by
  rw [chainRest]
  split
  · simp_all
  · rename_i found same
    obtain rfl := Option.some.inj (taken.symm.trans same)
    split
    · rename_i ran
      conv => rhs; rw [ran]
      rfl
    · rename_i right rest ran
      conv => rhs; rw [ran]
      change _ = join left right >>= fun value => chainRest word join link value rest
      cases join left right <;> rfl

variable {connective : Connective} {Link : Type} [Phrase Link] {EndsLink : List String → Prop}

theorem chainRest_sound (links : Recognizes reading link.run Link EndsLink)
    {left value : α} {tokens rest : List String} {leftTree : Expr}
    (read : reading.fold leftTree = .ok left)
    (found : chainRest connective.word (connective.combine reading) link left tokens =
      .ok (value, rest)) :
    ∃ further : List (Keyword connective.word × Link),
      tokens = Chain.restTokens further ++ rest ∧
      reading.fold (Chain.joined leftTree further) = .ok value := by
  -- Every link leaves fewer tokens; the tree on the left holds all that was read before them.
  induction size : tokens.length using Nat.strongRecOn generalizing left tokens leftTree with
  | ind size ih =>
    cases taken : takeWord connective.word tokens with
    | none =>
      rw [chainRest_none taken] at found
      obtain ⟨rfl, rfl⟩ := Prod.mk.inj (Except.ok.inj found)
      exact ⟨[], rfl, read⟩
    | some afterWord =>
      rw [chainRest_some taken] at found
      obtain ⟨⟨right, afterLink⟩, ran, found⟩ := Fallible.bind_eq_ok_iff.mp found
      obtain ⟨joined, combined, found⟩ := Fallible.bind_eq_ok_iff.mp found
      obtain ⟨form, shape, folded⟩ := links.sound ran
      obtain ⟨keyword, rfl⟩ := takeWord_eq_some_iff.mp taken
      have shorter := link.shortens ran
      have readJoined : reading.fold (connective.build leftTree (Phrase.tree form)) =
          .ok joined := by
        rw [fold_build, read, folded]
        exact combined
      obtain ⟨further, rfl, foldedAll⟩ :=
        ih afterLink.length (by simp only [List.length_cons] at size; omega) readJoined found rfl
      refine ⟨(keyword, form) :: further, ?_, foldedAll⟩
      simp [shape]

theorem fold_joined_error {fault : RuleError} {leftTree : Expr}
    (failed : reading.fold leftTree = .error fault)
    (further : List (Keyword connective.word × Link)) :
    reading.fold (Chain.joined leftTree further) = .error fault := by
  induction further generalizing leftTree with
  | nil => exact failed
  | cons next further ih =>
    apply ih
    rw [fold_build, failed]
    rfl

theorem endsLink_restTokens
    (goesOn : ∀ (keyword : Keyword connective.word) tail, EndsLink (keyword.token :: tail))
    (further : List (Keyword connective.word × Link)) {rest : List String}
    (ends : EndsChain connective EndsLink rest) :
    EndsLink (Chain.restTokens further ++ rest) := by
  cases further with
  | nil => exact ends.1
  | cons next further =>
    rw [Chain.restTokens_cons]
    exact goesOn next.1 _

theorem chainRest_complete (links : Recognizes reading link.run Link EndsLink)
    (goesOn : ∀ (keyword : Keyword connective.word) tail, EndsLink (keyword.token :: tail))
    {rest : List String} (ends : EndsChain connective EndsLink rest)
    (further : List (Keyword connective.word × Link)) {left : α} {leftTree : Expr}
    (read : reading.fold leftTree = .ok left) :
    chainRest connective.word (connective.combine reading) link left
        (Chain.restTokens further ++ rest) =
      reading.fold (Chain.joined leftTree further) >>= fun value => .ok (value, rest) := by
  induction further generalizing left leftTree with
  | nil =>
    change chainRest _ _ link left rest = reading.fold leftTree >>= _
    rw [chainRest_none ends.2, read]
    rfl
  | cons next further ih =>
    obtain ⟨keyword, form⟩ := next
    have linkEnds := endsLink_restTokens goesOn further ends
    have shape : Chain.restTokens ((keyword, form) :: further) ++ rest =
        keyword.token :: (Phrase.tokens form ++ (Chain.restTokens further ++ rest)) := by
      simp
    have folded : reading.fold (connective.build leftTree (Phrase.tree form)) =
        reading.fold (Phrase.tree form) >>= fun right =>
          connective.combine reading left right := by
      rw [fold_build, read]
      rfl
    rw [shape, chainRest_some (takeWord_keyword keyword _), links.complete form linkEnds]
    change _ = reading.fold
      (Chain.joined (connective.build leftTree (Phrase.tree form)) further) >>= _
    cases readForm : reading.fold (Phrase.tree form) with
    | error fault =>
      rw [readForm] at folded
      rw [fold_joined_error folded]
      rfl
    | ok right =>
      rw [readForm] at folded
      change connective.combine reading left right >>= _ = _
      cases joined : connective.combine reading left right with
      | error fault => rw [fold_joined_error (folded.trans joined)]; rfl
      | ok value => exact ih (folded.trans joined)

theorem chain_recognizes (connective : Connective)
    (links : Recognizes reading link.run Link EndsLink)
    (goesOn : ∀ (keyword : Keyword connective.word) tail, EndsLink (keyword.token :: tail)) :
    Recognizes reading (chain connective.word (connective.combine reading) link).run
      (Chain connective Link) (EndsChain connective EndsLink) := by
  constructor
  · intro tokens rest value found
    obtain ⟨⟨left, afterLeft⟩, ran, continued⟩ := Fallible.bind_eq_ok_iff.mp found
    obtain ⟨first, rfl, read⟩ := links.sound ran
    obtain ⟨further, rfl, folded⟩ := chainRest_sound links read continued
    exact ⟨⟨first, further⟩, by simp [Phrase.tokens], folded⟩
  · intro form rest ends
    obtain ⟨first, further⟩ := form
    have linkEnds := endsLink_restTokens goesOn further ends
    change link.run (Phrase.tokens first ++ Chain.restTokens further ++ rest) >>= _ =
      reading.fold (Chain.joined (Phrase.tree first) further) >>= _
    rw [List.append_assoc, links.complete first linkEnds]
    cases read : reading.fold (Phrase.tree first) with
    | error fault => rw [fold_joined_error read]; rfl
    | ok left => exact chainRest_complete links goesOn ends further read

end Chains

theorem disjunction_recognizes {inside : Option (Parser α)} {Group : Type} [Phrase Group]
    (groups : RecognizesGroups reading inside Group) :
    Recognizes reading (disjunction reading inside).run (Disjunction Group) EndsDisjunction :=
  have conjunctions : Recognizes reading (conjunction reading inside).run (Conjunction Group)
      EndsConjunction :=
    chain_recognizes .and (negation_recognizes groups) endsAtom_connective
  chain_recognizes .or conjunctions endsConjunction_or

/-- The descent with so many levels of groups reads exactly the sentences with as many. -/
theorem expression_recognizes (reading : Reading α) (levels : Nat) :
    Recognizes reading (expression reading levels).run (Sentence levels) EndsDisjunction := by
  induction levels with
  | zero =>
    have groups : RecognizesGroups reading none Empty := Empty.elim
    exact disjunction_recognizes groups
  | succ levels ih =>
    have groups : RecognizesGroups reading (some (expression reading levels)) (Sentence levels) :=
      ih
    exact disjunction_recognizes groups

end Grammar

end Verdict
