import Verdict.Proofs.Grammar.Phrase

/-! A disjunction seen flat: its first operand, and every further operand with the word before it,
whether that is AND or OR. -/

namespace Verdict

namespace Phrase

structure Link (Group : Type) where
  connective : Connective
  word : Keyword connective.word
  operand : Negation Group

namespace Link

variable {Group : Type}

def ofConjunction (rest : List (Keyword Connective.and.word × Negation Group)) :
    List (Link Group) :=
  rest.map fun link => ⟨.and, link.1, link.2⟩

def ofDisjunction (rest : List (Keyword Connective.or.word × Conjunction Group)) :
    List (Link Group) :=
  rest.flatMap fun link => ⟨.or, link.1, link.2.first⟩ :: ofConjunction link.2.rest

theorem ofConjunction_eq_nil {rest : List (Keyword Connective.and.word × Negation Group)}
    (none : ofConjunction rest = []) : rest = [] :=
  List.map_eq_nil_iff.mp none

theorem ofDisjunction_eq_nil {rest : List (Keyword Connective.or.word × Conjunction Group)}
    (none : ofDisjunction rest = []) : rest = [] := by
  cases rest with
  | nil => rfl
  | cons link rest => cases none

variable [Phrase Group]

def tokens (links : List (Link Group)) : List String :=
  links.flatMap fun link => link.word.token :: Phrase.tokens link.operand

def atoms (links : List (Link Group)) : List Atom :=
  links.flatMap fun link => (Phrase.tree link.operand).atoms

theorem tokens_cons (link : Link Group) (links : List (Link Group)) :
    tokens (link :: links) = link.word.token :: (Phrase.tokens link.operand ++ tokens links) := by
  simp [tokens]

theorem tokens_append (front back : List (Link Group)) :
    tokens (front ++ back) = tokens front ++ tokens back :=
  List.flatMap_append

theorem atoms_append (front back : List (Link Group)) :
    atoms (front ++ back) = atoms front ++ atoms back :=
  List.flatMap_append

theorem tokens_ofConjunction (rest : List (Keyword Connective.and.word × Negation Group)) :
    tokens (ofConjunction rest) = Chain.restTokens rest := by
  simp [tokens, ofConjunction, Chain.restTokens, List.flatMap_map]

theorem tokens_ofDisjunction (rest : List (Keyword Connective.or.word × Conjunction Group)) :
    tokens (ofDisjunction rest) = Chain.restTokens rest := by
  induction rest with
  | nil => rfl
  | cons link rest ih =>
    change tokens
      ((⟨.or, link.1, link.2.first⟩ :: ofConjunction link.2.rest) ++ ofDisjunction rest) = _
    rw [tokens_append, tokens_cons, tokens_ofConjunction, ih, Chain.restTokens_cons]
    rfl

theorem atoms_joined {connective : Connective} {Form : Type} [Phrase Form] (left : Expr)
    (rest : List (Keyword connective.word × Form)) :
    (Chain.joined left rest).atoms =
      left.atoms ++ rest.flatMap fun link => (Phrase.tree link.2).atoms := by
  induction rest generalizing left with
  | nil => simp [Chain.joined]
  | cons link rest ih =>
    have first : (connective.build left (Phrase.tree link.2)).atoms =
        left.atoms ++ (Phrase.tree link.2).atoms := by
      cases connective <;> rfl
    change (Chain.joined (connective.build left (Phrase.tree link.2)) rest).atoms = _
    rw [ih, first, List.flatMap_cons, List.append_assoc]

theorem atoms_conjunction (conjunction : Conjunction Group) :
    (Phrase.tree conjunction).atoms =
      (Phrase.tree conjunction.first).atoms ++ atoms (ofConjunction conjunction.rest) := by
  change (Chain.joined _ _).atoms = _
  rw [atoms_joined]
  simp [atoms, ofConjunction, List.flatMap_map]

theorem atoms_ofDisjunction (rest : List (Keyword Connective.or.word × Conjunction Group)) :
    atoms (ofDisjunction rest) = rest.flatMap fun link => (Phrase.tree link.2).atoms := by
  induction rest with
  | nil => rfl
  | cons link rest ih =>
    rw [List.flatMap_cons, atoms_conjunction, ← ih]
    exact atoms_append _ _

end Link

theorem exists_links {Group : Type} [Phrase Group] (form : Disjunction Group) :
    ∃ (first : Negation Group) (links : List (Link Group)),
      tokens form = tokens first ++ Link.tokens links ∧
      (tree form).atoms = (tree first).atoms ++ Link.atoms links ∧
      ∀ link, links = [link] →
        tree form = link.connective.build (tree first) (tree link.operand) := by
  obtain ⟨conjunction, disjunctionRest⟩ := form
  refine ⟨conjunction.first,
    Link.ofConjunction conjunction.rest ++ Link.ofDisjunction disjunctionRest, ?_, ?_, ?_⟩
  · rw [Link.tokens_append, Link.tokens_ofConjunction, Link.tokens_ofDisjunction,
      ← List.append_assoc]
    rfl
  · change (Chain.joined (tree conjunction) _).atoms = _
    rw [Link.atoms_joined, Link.atoms_conjunction, Link.atoms_append, Link.atoms_ofDisjunction,
      List.append_assoc]
  · obtain ⟨first, conjunctionRest⟩ := conjunction
    intro link single
    cases conjunctionRest with
    | nil =>
      cases disjunctionRest with
      | nil => cases single
      | cons second rest =>
        obtain ⟨word, secondFirst, secondRest⟩ := second
        obtain ⟨rfl, none⟩ := List.cons.inj single
        obtain ⟨noMore, noOther⟩ := List.append_eq_nil_iff.mp none
        obtain rfl := Link.ofConjunction_eq_nil noMore
        obtain rfl := Link.ofDisjunction_eq_nil noOther
        rfl
    | cons second rest =>
      obtain ⟨rfl, none⟩ := List.cons.inj single
      obtain ⟨noMore, noOther⟩ := List.append_eq_nil_iff.mp none
      obtain rfl := Link.ofConjunction_eq_nil noMore
      obtain rfl := Link.ofDisjunction_eq_nil noOther
      rfl

end Phrase

end Verdict
