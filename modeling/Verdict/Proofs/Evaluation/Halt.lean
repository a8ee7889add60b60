import Verdict.Proofs.Evaluation.Agreement

/-! Where the evaluation in one pass halts at a bare variable. The text is the start of a sentence
up to that variable; what comes after it is not looked at and may be anything. -/

namespace Verdict

namespace Grammar

open Phrase (Keyword Leaf Condition Operand Negation Chain Conjunction Disjunction Sentence)

variable {bindings : Bindings} {name : String} {tokens : List String}

/-- The tokens lead to a bare variable without a truth value. A phrase starts with them: it goes on
with closing parentheses only. With any other end of an operand after the variable the step halts
in the same way. -/
structure HaltsAt (bindings : Bindings)
    (run : List String → Except RuleError (Bool × List String)) (phrase : List String)
    (name : String) (tokens before after : List String) : Prop where
  split : tokens = before ++ name :: after
  ends : endsAtom after = true
  unbound : bindings.truth? name = none
  started : ∃ closings, phrase = before ++ name :: List.replicate closings ")"
  blind : ∀ {rest}, endsAtom rest = true →
    run (before ++ name :: rest) = .error (.bareBoolean name)

def Halts (bindings : Bindings) (run : List String → Except RuleError (Bool × List String))
    (Form : Type) [Phrase Form] : Prop :=
  ∀ tokens name, run tokens = .error (.bareBoolean name) →
    ∃ (form : Form) (before after : List String),
      HaltsAt bindings run (Phrase.tokens form) name tokens before after

section Outward

variable {inner outer : List String → Except RuleError (Bool × List String)}
  {phrase before after : List String}

theorem HaltsAt.outward (halt : HaltsAt bindings inner phrase name tokens before after)
    (lead : List String)
    (passes : ∀ rest, inner (before ++ name :: rest) = .error (.bareBoolean name) →
      outer (lead ++ (before ++ name :: rest)) = .error (.bareBoolean name)) :
    HaltsAt bindings outer (lead ++ phrase) name (lead ++ tokens) (lead ++ before) after := by
  obtain ⟨closings, started⟩ := halt.started
  refine ⟨?_, halt.ends, halt.unbound, ⟨closings, ?_⟩, ?_⟩
  · rw [halt.split, List.append_assoc]
  · rw [started, List.append_assoc]
  · intro rest ends
    rw [List.append_assoc]
    exact passes rest (halt.blind ends)

theorem HaltsAt.closed (halt : HaltsAt bindings inner phrase name tokens before after) :
    HaltsAt bindings inner (phrase ++ [")"]) name tokens before after := by
  obtain ⟨closings, started⟩ := halt.started
  refine ⟨halt.split, halt.ends, halt.unbound, ⟨closings + 1, ?_⟩, halt.blind⟩
  rw [started, List.replicate_succ', List.append_assoc, List.cons_append]

end Outward

theorem requireWord_ne_bareBoolean {word : String} :
    requireWord word tokens ≠ .error (.bareBoolean name) := by
  unfold requireWord
  split <;> simp

theorem comparison_ne_bareBoolean {first : String} :
    comparison first tokens ≠ .error (.bareBoolean name) := by
  unfold comparison
  split
  · simp
  · split
    · simp
    · split <;> simp

theorem atom_ne_bareBoolean : atom tokens ≠ .error (.bareBoolean name) := by
  intro failed
  unfold atom at failed
  split at failed
  · cases failed
  · split at failed
    · cases failed
    · split at failed
      · rcases Fallible.bind_eq_error_iff.mp failed with missing | ⟨rest, -, impossible⟩
        · exact requireWord_ne_bareBoolean missing
        · cases impossible
      · split at failed
        · cases failed
        · exact comparison_ne_bareBoolean failed

theorem atom_bare {rest : List String} (found : atom tokens = .ok (.bare name, rest)) :
    tokens = name :: rest ∧ endsAtom rest = true := by
  unfold atom at found
  split at found
  · cases found
  · split at found
    · rename_i ends
      obtain ⟨same, rfl⟩ := Prod.mk.inj (Except.ok.inj found)
      obtain rfl := Atom.bare.inj same
      exact ⟨rfl, ends⟩
    · split at found
      · obtain ⟨afterNull, -, impossible⟩ := Fallible.bind_eq_ok_iff.mp found
        cases impossible
      · split at found
        · cases found
        · obtain ⟨operator, literal, -, impossible⟩ := comparison_sound found
          cases impossible

section Operands

variable {inside : Option (Parser Bool)} {Group : Type} [Phrase Group]

def HaltsInside (bindings : Bindings) (inside : Option (Parser Bool)) (Group : Type)
    [Phrase Group] : Prop :=
  ∀ parser, inside = some parser → Halts bindings parser.run Group

theorem operand_opening {α : Type} {reading : Reading α} {parser : Parser α}
    (rest : List String) :
    operand reading (some parser) ("(" :: rest) =
      parser.run rest >>= fun read =>
        requireWord ")" read.2 >>= fun rest => .ok (read.1, rest) := by
  rw [operand, (takeWord_parenthesis_eq_some_iff (.inl rfl)).mpr rfl]

theorem operand_unopened {α : Type} {reading : Reading α} {inside : Option (Parser α)}
    (unopened : takeWord "(" tokens = none) :
    operand reading inside tokens =
      atom tokens >>= fun found =>
        reading.atom found.1 >>= fun value => .ok (value, found.2) := by
  rw [operand, unopened]

theorem leaf_halts (unopened : takeWord "(" tokens = none)
    (failed : operand (Reading.value bindings) inside tokens = .error (.bareBoolean name)) :
    ∃ (form : Operand Group) (before after : List String),
      HaltsAt bindings (operand (Reading.value bindings) inside) (Phrase.tokens form) name tokens
        before after := by
  rw [operand_unopened unopened] at failed
  rcases Fallible.bind_eq_error_iff.mp failed with malformed | ⟨⟨leaf, rest⟩, found, failed⟩
  · exact absurd malformed atom_ne_bareBoolean
  · rcases Fallible.bind_eq_error_iff.mp failed with refused | ⟨value, -, impossible⟩
    · obtain ⟨other, rfl, unbound, same⟩ := atom_evaluate_eq_error refused
      obtain rfl := RuleError.bareBoolean.inj same
      obtain ⟨rfl, ends⟩ := atom_bare found
      have notOpening : name ≠ "(" := by
        rintro rfl
        rw [(takeWord_parenthesis_eq_some_iff (.inl rfl)).mpr rfl] at unopened
        cases unopened
      let leaf : Leaf := ⟨name, notOpening, .bare⟩
      refine ⟨.leaf leaf, [], rest, rfl, ends, unbound, ⟨0, rfl⟩, ?_⟩
      intro rest ends
      have read : atom (name :: rest) = .ok (.bare name, rest) := atom_leaf leaf ends
      have refused : (Reading.value bindings).atom (.bare name) = .error (.bareBoolean name) :=
        refused
      rw [List.nil_append, operand_unopened (takeWord_opening_cons notOpening rest), read]
      change (Reading.value bindings).atom (.bare name) >>= _ = _
      rw [refused]
      rfl
    · cases impossible

theorem group_halts {parser : Parser Bool} (groups : Halts bindings parser.run Group)
    (failed : operand (Reading.value bindings) (some parser) ("(" :: tokens) =
      .error (.bareBoolean name)) :
    ∃ (form : Operand Group) (before after : List String),
      HaltsAt bindings (operand (Reading.value bindings) (some parser)) (Phrase.tokens form) name
        ("(" :: tokens) before after := by
  rw [operand_opening] at failed
  rcases Fallible.bind_eq_error_iff.mp failed with halted | ⟨read, -, failed⟩
  · obtain ⟨inner, before, after, halt⟩ := groups _ _ halted
    refine ⟨.group inner, "(" :: before, after, halt.closed.outward ["("] ?_⟩
    intro rest halted
    exact (operand_opening _).trans (Fallible.bind_eq_error_iff.mpr (.inl halted))
  · rcases Fallible.bind_eq_error_iff.mp failed with missing | ⟨rest, -, impossible⟩
    · exact absurd missing requireWord_ne_bareBoolean
    · cases impossible

theorem operand_halts (groups : HaltsInside bindings inside Group) :
    Halts bindings (operand (Reading.value bindings) inside) (Operand Group) := by
  intro tokens name failed
  cases opening : takeWord "(" tokens with
  | none => exact leaf_halts opening failed
  | some afterOpening =>
    obtain rfl := (takeWord_parenthesis_eq_some_iff (.inl rfl)).mp opening
    cases inside with
    | none =>
      rw [operand, opening] at failed
      cases failed
    | some parser => exact group_halts (groups parser rfl) failed

theorem takeWord_before {word : String} (before rest other : List String) :
    takeWord word (before ++ name :: rest) = none ↔
      takeWord word (before ++ name :: other) = none := by
  cases before with
  | nil => exact takeWord_cons_eq_none_iff.trans takeWord_cons_eq_none_iff.symm
  | cons first before => exact takeWord_cons_eq_none_iff.trans takeWord_cons_eq_none_iff.symm

theorem negation_halts (groups : HaltsInside bindings inside Group) :
    Halts bindings (negation (Reading.value bindings) inside) (Negation Group) := by
  intro tokens name failed
  cases taken : takeWord "NOT" tokens with
  | some afterNot =>
    obtain ⟨keyword, rfl⟩ := takeWord_eq_some_iff.mp taken
    rw [negation, taken] at failed
    rcases Fallible.bind_eq_error_iff.mp failed with halted | ⟨read, -, impossible⟩
    · obtain ⟨form, before, after, halt⟩ := operand_halts groups _ _ halted
      refine ⟨.negated keyword form, keyword.token :: before, after,
        halt.outward [keyword.token] ?_⟩
      intro rest halted
      rw [List.cons_append, List.nil_append, negation, takeWord_keyword]
      exact Fallible.bind_eq_error_iff.mpr (.inl halted)
    · cases impossible
  | none =>
    rw [negation, taken] at failed
    obtain ⟨form, before, after, halt⟩ := operand_halts groups _ _ failed
    obtain ⟨closings, started⟩ := halt.started
    rw [halt.split] at taken
    -- The word is sought in the first token, which stands in the tokens before the variable or is
    -- the variable; so it is missing whatever follows.
    have other : Text.sameFolded form.opening "NOT" = false := by
      rw [← takeWord_operand form [], List.append_nil, started]
      exact (takeWord_before before _ _).mp taken
    refine ⟨.plain form other, before, after, halt.outward [] ?_⟩
    intro rest halted
    rw [List.nil_append, negation, (takeWord_before before _ rest).mp taken]
    exact halted

end Operands

section Chains

variable {connective : Connective} {link : Parser Bool} {Link : Type} [Phrase Link]
  {EndsLink : List String → Prop}

theorem chainRest_link {afterWord rest : List String} {left right joined : Bool}
    (keyword : Keyword connective.word) (ran : link.run afterWord = .ok (right, rest))
    (combined : connective.combine (Reading.value bindings) left right = .ok joined) :
    chainRest connective.word (connective.combine (Reading.value bindings)) link left
        (keyword.token :: afterWord) =
      chainRest connective.word (connective.combine (Reading.value bindings)) link joined rest := by
  rw [chainRest_some (takeWord_keyword keyword _), ran]
  change connective.combine (Reading.value bindings) left right >>= _ = _
  rw [combined]
  rfl

theorem chainRest_halts_first (links : Halts bindings link.run Link) {left : Bool}
    (keyword : Keyword connective.word) (halted : link.run tokens = .error (.bareBoolean name)) :
    ∃ (further : List (Keyword connective.word × Link)) (before after : List String),
      HaltsAt bindings
        (chainRest connective.word (connective.combine (Reading.value bindings)) link left)
        (Chain.restTokens further) name (keyword.token :: tokens) (keyword.token :: before)
        after := by
  obtain ⟨form, before, after, halt⟩ := links _ _ halted
  have single : Chain.restTokens [(keyword, form)] = [keyword.token] ++ Phrase.tokens form := by
    rw [Chain.restTokens_cons]
    exact congrArg (keyword.token :: ·) (List.append_nil _)
  refine ⟨[(keyword, form)], before, after, ?_⟩
  rw [single]
  refine halt.outward [keyword.token] ?_
  intro rest halted
  rw [List.cons_append, List.nil_append, chainRest_some (takeWord_keyword keyword _), halted]
  rfl

/-- Where the rest of a chain halts it starts with the word of the chain, so the link before it ends
there whatever comes after the variable. -/
theorem chainRest_halts (links : Halts bindings link.run Link)
    (recognized : Recognizes (Reading.value bindings) link.run Link EndsLink)
    (goesOn : ∀ (keyword : Keyword connective.word) tail, EndsLink (keyword.token :: tail))
    {left : Bool}
    (failed : chainRest connective.word (connective.combine (Reading.value bindings)) link left
      tokens = .error (.bareBoolean name)) :
    ∃ (further : List (Keyword connective.word × Link)) (keyword : Keyword connective.word)
      (before after : List String),
      HaltsAt bindings
        (chainRest connective.word (connective.combine (Reading.value bindings)) link left)
        (Chain.restTokens further) name tokens (keyword.token :: before) after := by
  -- A link takes at least one token, and what is on its left does not matter for the halt.
  induction size : tokens.length using Nat.strongRecOn generalizing left tokens with
  | ind size ih =>
    cases taken : takeWord connective.word tokens with
    | none =>
      rw [chainRest_none taken] at failed
      cases failed
    | some afterWord =>
      obtain ⟨keyword, rfl⟩ := takeWord_eq_some_iff.mp taken
      cases ran : link.run afterWord with
      | error fault =>
        rw [chainRest_some taken, ran] at failed
        obtain rfl := Except.error.inj failed
        obtain ⟨further, before, after, halt⟩ := chainRest_halts_first links keyword ran
        exact ⟨further, keyword, before, after, halt⟩
      | ok read =>
        obtain ⟨right, rest⟩ := read
        obtain ⟨joined, combined⟩ : ∃ joined,
            connective.combine (Reading.value bindings) left right = .ok joined :=
          combine_value connective left right
        rw [chainRest_link keyword ran combined] at failed
        have shorter := link.shortens ran
        rw [List.length_cons] at size
        obtain ⟨further, next, before, after, halt⟩ := ih rest.length (by omega) failed rfl
        obtain ⟨form, rfl, folded⟩ := recognized.sound ran
        refine ⟨(keyword, form) :: further, keyword, Phrase.tokens form ++ next.token :: before,
          after, ?_⟩
        rw [Chain.restTokens_cons]
        refine halt.outward (keyword.token :: Phrase.tokens form) ?_
        intro rest halted
        have read := recognized.complete form (goesOn next (before ++ name :: rest))
        rw [folded] at read
        exact (chainRest_link keyword read combined).trans halted

theorem chain_halts (connective : Connective) (links : Halts bindings link.run Link)
    (recognized : Recognizes (Reading.value bindings) link.run Link EndsLink)
    (goesOn : ∀ (keyword : Keyword connective.word) tail, EndsLink (keyword.token :: tail)) :
    Halts bindings
      (chain connective.word (connective.combine (Reading.value bindings)) link).run
      (Chain connective Link) := by
  intro tokens name failed
  rcases Fallible.bind_eq_error_iff.mp failed with halted | ⟨⟨left, rest⟩, ran, later⟩
  · obtain ⟨first, before, after, halt⟩ := links _ _ halted
    have alone : Phrase.tokens (Chain.mk first [] : Chain connective Link) = Phrase.tokens first :=
      List.append_nil _
    refine ⟨⟨first, []⟩, before, after, ?_⟩
    rw [alone]
    refine halt.outward [] ?_
    intro rest halted
    exact Fallible.bind_eq_error_iff.mpr (.inl halted)
  · obtain ⟨further, next, before, after, halt⟩ :=
      chainRest_halts links recognized goesOn later
    obtain ⟨first, rfl, folded⟩ := recognized.sound ran
    refine ⟨⟨first, further⟩, Phrase.tokens first ++ next.token :: before, after,
      halt.outward (Phrase.tokens first) ?_⟩
    intro rest halted
    have read := recognized.complete first (goesOn next (before ++ name :: rest))
    rw [folded] at read
    exact Fallible.bind_eq_error_iff.mpr (.inr ⟨_, read, halted⟩)

end Chains

theorem disjunction_halts {inside : Option (Parser Bool)} {Group : Type} [Phrase Group]
    (groups : HaltsInside bindings inside Group)
    (recognized : RecognizesGroups (Reading.value bindings) inside Group) :
    Halts bindings (disjunction (Reading.value bindings) inside).run (Disjunction Group) :=
  let link : Parser Bool :=
    { run := negation (Reading.value bindings) inside, shortens := negation_shortens }
  have links : Halts bindings link.run (Negation Group) := negation_halts groups
  have read : Recognizes (Reading.value bindings) link.run (Negation Group) EndsOperand :=
    negation_recognizes recognized
  have conjunctions :
      Halts bindings (conjunction (Reading.value bindings) inside).run (Conjunction Group) :=
    chain_halts .and links read endsAtom_connective
  have conjunctionsRead : Recognizes (Reading.value bindings)
      (conjunction (Reading.value bindings) inside).run (Conjunction Group) EndsConjunction :=
    chain_recognizes .and read endsAtom_connective
  chain_halts .or conjunctions conjunctionsRead endsConjunction_or

theorem expression_halts (bindings : Bindings) (levels : Nat) :
    Halts bindings (expression (Reading.value bindings) levels).run (Sentence levels) := by
  induction levels with
  | zero =>
    have groups : HaltsInside bindings none Empty := fun _ impossible => nomatch impossible
    have recognized : RecognizesGroups (Reading.value bindings) none Empty := Empty.elim
    exact disjunction_halts groups recognized
  | succ levels ih =>
    have groups : HaltsInside bindings (some (expression (Reading.value bindings) levels))
        (Sentence levels) := by
      rintro parser ⟨⟩
      exact ih
    have recognized : RecognizesGroups (Reading.value bindings)
        (some (expression (Reading.value bindings) levels)) (Sentence levels) :=
      expression_recognizes (Reading.value bindings) levels
    exact disjunction_halts groups recognized

end Grammar

open Grammar (endsAtom)
open Phrase (Sentence)

theorem RuleError.eq_bareBoolean_of_semantic {fault : RuleError}
    (semantic : fault.kind = .semantic) : ∃ name, fault = .bareBoolean name := by
  cases fault with
  | bareBoolean name => exact ⟨name, rfl⟩
  | _ => cases semantic

theorem evaluate_eq_bareBoolean_iff {bindings : Bindings} {text name : String} :
    evaluate bindings text = .error (.bareBoolean name) ↔
      (Grammar.expression (Reading.value bindings) maxNesting).run (tokenize text) =
        .error (.bareBoolean name) := by
  unfold evaluate Reading.read
  rw [Fallible.bind_eq_error_iff]
  constructor
  · rintro (halted | ⟨⟨value, rest⟩, -, trailing⟩)
    · exact halted
    · cases rest <;> cases trailing
  · exact .inl

def Bindings.holding (names : List String) : Bindings :=
  names.foldr (fun name bindings => bindings.insert name (.boolean true)) empty

theorem Bindings.truth?_holding {names : List String} {name : String} (member : name ∈ names) :
    (holding names).truth? name = some true := by
  induction names with
  | nil => contradiction
  | cons first names ih =>
    change (((holding names).insert first (.boolean true)).get? name).bind Value.truth? = some true
    rw [get?_insert]
    by_cases same : first = name
    · rw [if_pos same]
      rfl
    · rw [if_neg same]
      exact ih ((List.mem_cons.mp member).resolve_left (Ne.symm same))

theorem Atom.evaluate_of_bound {bindings : Bindings} {leaf : Atom}
    (bound : bindings.truth? leaf.name = some true) :
    ∃ result, leaf.evaluate bindings = .ok result := by
  cases leaf with
  | bare name =>
    refine ⟨true, ?_⟩
    rw [evaluate, show bindings.truth? name = some true from bound]
  | _ => exact ⟨_, rfl⟩

theorem fold_of_bound {bindings : Bindings} {tree : Expr}
    (bound : ∀ leaf ∈ tree.atoms, bindings.truth? leaf.name = some true) :
    ∃ result, (Reading.value bindings).fold tree = .ok result := by
  induction tree using Expr.connectiveInduction with
  | atom leaf => exact leaf.evaluate_of_bound (bound leaf List.mem_cons_self)
  | not inner ih =>
    obtain ⟨value, folded⟩ := ih bound
    refine ⟨!value, ?_⟩
    rw [Reading.fold, folded]
    rfl
  | joined connective left right leftIh rightIh =>
    rw [Expr.atoms_build, List.forall_mem_append] at bound
    obtain ⟨leftValue, leftFolded⟩ := leftIh bound.1
    obtain ⟨rightValue, rightFolded⟩ := rightIh bound.2
    rw [Grammar.fold_build, leftFolded, rightFolded]
    exact Grammar.combine_value connective leftValue rightValue

theorem exists_evaluate_ok_iff {text : String} :
    (∃ bindings result, evaluate bindings text = .ok result) ↔
      ∃ sentence : Sentence maxNesting, Phrase.tokens sentence = tokenize text := by
  constructor
  · rintro ⟨bindings, result, evaluated⟩
    obtain ⟨sentence, shape, -⟩ := (Reading.value bindings).read_eq_ok_iff.mp evaluated
    exact ⟨sentence, shape⟩
  · rintro ⟨sentence, shape⟩
    let tree := Phrase.tree sentence
    let bindings := Bindings.holding (tree.atoms.map Atom.name)
    have bound : ∀ leaf ∈ tree.atoms, bindings.truth? leaf.name = some true := by
      intro leaf member
      exact Bindings.truth?_holding (List.mem_map_of_mem member)
    obtain ⟨result, folded⟩ := fold_of_bound bound
    exact ⟨bindings, result, (Reading.read_sentence _ sentence shape).trans folded⟩

theorem sentence_closed {levels : Nat} (sentence other : Sentence levels) (rest : List String) :
    Phrase.tokens other ≠ Phrase.tokens sentence ++ ")" :: rest := by
  intro same
  rw [← List.append_nil (Phrase.tokens other)] at same
  obtain ⟨-, impossible⟩ := Grammar.sentence_unambiguous levels other sentence
    Grammar.endsDisjunction_nil (Grammar.endsDisjunction_closing rest) same
  cases impossible

/-- A semantic error stands at a bare variable that the table binds to no truth value. The tokens up
to that variable start a sentence, and whatever comes after them, the error is the same; so the text
is well formed exactly when all its tokens are a sentence. -/
theorem semantic_error_located {bindings : Bindings} {text : String} {fault : RuleError}
    (failed : evaluate bindings text = .error fault) (semantic : fault.kind = .semantic) :
    ((∃ other result, evaluate other text = .ok result) ↔
      ∃ sentence : Sentence maxNesting, Phrase.tokens sentence = tokenize text) ∧
    ∃ name before after, fault = .bareBoolean name ∧ bindings.truth? name = none ∧
      tokenize text = before ++ name :: after ∧ endsAtom after = true ∧
      (∃ (sentence : Sentence maxNesting) (closings : Nat),
        Phrase.tokens sentence = before ++ name :: List.replicate closings ")") ∧
      ∀ other rest, tokenize other = before ++ name :: rest → endsAtom rest = true →
        evaluate bindings other = .error fault := by
  obtain ⟨name, rfl⟩ := RuleError.eq_bareBoolean_of_semantic semantic
  have halted := evaluate_eq_bareBoolean_iff.mp failed
  obtain ⟨sentence, before, after, halt⟩ :=
    Grammar.expression_halts bindings maxNesting _ _ halted
  obtain ⟨closings, started⟩ := halt.started
  refine ⟨exists_evaluate_ok_iff, name, before, after, rfl, halt.unbound, halt.split, halt.ends,
    ⟨sentence, closings, started⟩, ?_⟩
  intro other rest shape ends
  rw [evaluate_eq_bareBoolean_iff, shape]
  exact halt.blind ends

theorem negated_variable_well_formed :
    evaluate .empty "NOT A" = .error (.bareBoolean "A") ∧
      ∃ other result, evaluate other "NOT A" = .ok result := by
  have written : tokenize "NOT A" = ["NOT", "A"] := by decide +kernel
  have failed : evaluate .empty "NOT A" = .error (.bareBoolean "A") := by
    rw [evaluate_eq_bareBoolean_iff, written]
    rfl
  let sentence : Sentence maxNesting :=
    ⟨⟨.negated ⟨"NOT", by decide⟩ (.leaf ⟨"A", by decide, .bare⟩), []⟩, []⟩
  exact ⟨failed, (semantic_error_located failed rfl).1.mpr ⟨sentence, written.symm⟩⟩

/-- The variable before an unmatched parenthesis is reported, and not the parenthesis. -/
theorem unmatched_closing_semantic :
    evaluate .empty "A )" = .error (.bareBoolean "A") ∧
      (RuleError.bareBoolean "A").kind = .semantic ∧
      ¬ ∃ other result, evaluate other "A )" = .ok result := by
  have written : tokenize "A )" = ["A", ")"] := by decide +kernel
  refine ⟨?_, rfl, ?_⟩
  · rw [evaluate_eq_bareBoolean_iff, written]
    rfl
  · rw [exists_evaluate_ok_iff, written]
    rintro ⟨other, shape⟩
    let sentence : Sentence maxNesting := ⟨⟨.plain (.leaf ⟨"A", by decide, .bare⟩) rfl, []⟩, []⟩
    exact sentence_closed sentence other [] shape

end Verdict
