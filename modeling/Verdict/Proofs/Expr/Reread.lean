import Verdict.Proofs.Expr.Canonical
import Verdict.Proofs.Grammar.Links

/-! Reading canonical text again. A phrase that is read off the canonical text of a tree either
stands for the tree, which can then be restored, or has an atom that differs from the atom of the
tree at its place. -/

namespace Verdict

open Lexeme
open Grammar (EndsOperand EndsDisjunction)
open Phrase (Condition Leaf Operand Negation Chain Conjunction Disjunction Sentence Keyword Inside)

/-- Two lists of atoms differ somewhere before either of them ends. -/
def Clash : List Atom → List Atom → Prop
  | left :: lefts, right :: rights => (left == right) = false ∨ Clash lefts rights
  | _, _ => False

theorem Atom.name_eq_of_beq {left right : Atom} (same : (left == right) = true) :
    left.name = right.name := by
  cases left with
  | compare name operator value =>
    cases right with
    | compare other otherOperator otherValue => exact eq_of_beq (Bool.and_eq_true_iff.mp same).1
    | _ => exact absurd same Bool.false_ne_true
  | absent name =>
    cases right with
    | absent other => exact eq_of_beq same
    | _ => exact absurd same Bool.false_ne_true
  | present name =>
    cases right with
    | present other => exact eq_of_beq same
    | _ => exact absurd same Bool.false_ne_true
  | bare name =>
    cases right with
    | bare other => exact eq_of_beq same
    | _ => exact absurd same Bool.false_ne_true

theorem Atom.eq_present_of_beq {name : String} {leaf : Atom}
    (same : (Atom.present name == leaf) = true) : leaf = .present name := by
  cases leaf with
  | present other => exact congrArg Atom.present (name_eq_of_beq same).symm
  | _ => exact absurd same Bool.false_ne_true

namespace Clash

variable {lefts rights : List Atom}

theorem append (clash : Clash lefts rights) (leftMore rightMore : List Atom) :
    Clash (lefts ++ leftMore) (rights ++ rightMore) := by
  induction lefts generalizing rights with
  | nil => exact clash.elim
  | cons left lefts ih =>
    cases rights with
    | nil => exact clash.elim
    | cons right rights => exact clash.imp_right ih

theorem prepend (front : List Atom) (clash : Clash lefts rights) :
    Clash (front ++ lefts) (front ++ rights) := by
  induction front with
  | nil => exact clash
  | cons first front ih => exact .inr ih

theorem after_beq {left right : Expr} (same : (left == right) = true)
    (clash : Clash (left.atoms ++ lefts) (right.atoms ++ rights)) : Clash lefts rights := by
  induction left generalizing right lefts rights with
  | atom leaf =>
    cases right with
    | atom other =>
      have equal : (leaf == other) = true := same
      rcases clash with differ | later
      · exact absurd (differ.symm.trans equal) Bool.false_ne_true
      · exact later
    | _ => exact absurd same Bool.false_ne_true
  | not inner ih =>
    cases right with
    | not other => exact ih same clash
    | _ => exact absurd same Bool.false_ne_true
  | and first second firstIh secondIh =>
    cases right with
    | and otherFirst otherSecond =>
      obtain ⟨firstSame, secondSame⟩ := Bool.and_eq_true_iff.mp same
      simp only [Expr.atoms, List.append_assoc] at clash
      exact secondIh secondSame (firstIh firstSame clash)
    | _ => exact absurd same Bool.false_ne_true
  | or first second firstIh secondIh =>
    cases right with
    | or otherFirst otherSecond =>
      obtain ⟨firstSame, secondSame⟩ := Bool.and_eq_true_iff.mp same
      simp only [Expr.atoms, List.append_assoc] at clash
      exact secondIh secondSame (firstIh firstSame clash)
    | _ => exact absurd same Bool.false_ne_true

theorem not_beq {left right : Expr} (clash : Clash left.atoms right.atoms) :
    (left == right) = false := by
  rw [← Bool.not_eq_true]
  intro same
  rw [← List.append_nil left.atoms, ← List.append_nil right.atoms] at clash
  exact clash.after_beq same

theorem of_names {left right : Atom} (differ : left.name ≠ right.name) :
    Clash (left :: lefts) (right :: rights) := by
  left
  rw [← Bool.not_eq_true]
  exact fun same => differ (Atom.name_eq_of_beq same)

end Clash

def Reread {Form : Type} [Phrase Form] (levels : Nat) (form : Form) (tree : Expr)
    (after : List String) (rest : String) : Prop :=
  (tree.Restorable levels (hasQuote rest) ∧ Phrase.tree form = tree ∧ after = tokenize rest) ∨
    Clash (Phrase.tree form).atoms tree.atoms

section Operands

variable {levels : Nat} {after : List String} {rest : String}

/-- A lone quote before another quote becomes the start of a quoted run. -/
theorem tokenize_fused {text : String} (quote : hasQuote text = true) :
    ∃ token tokens, tokenize ("'" ++ text) = token :: tokens ∧ token ≠ "'" ∧
      token.toList.head? = some '\'' := by
  have member : '\'' ∈ text.toList := by simpa [hasQuote] using quote
  obtain ⟨body, tail, plain, split⟩ := exists_body_of_mem member
  have whole : ("'" ++ text).toList = '\'' :: (body ++ '\'' :: tail) := by
    rw [String.toList_append, split]
    rfl
  refine ⟨String.ofList ('\'' :: (body ++ ['\''])), tokenize (String.ofList tail), ?_, ?_, ?_⟩
  · rw [tokenize, whole, lexemes, if_neg (by decide), split_quoted plain, List.map_cons, tokenize,
      String.toList_ofList]
  · intro lone
    have length := congrArg (fun token : String => token.toList.length) lone
    simp at length
  · rw [String.toList_ofList]
    rfl

theorem opening_eq {operand : Operand (Inside levels)} {token : String} {tokens : List String}
    (same : Phrase.tokens operand ++ after = token :: tokens) : operand.opening = token := by
  cases operand with
  | group inner => exact (List.cons.inj same).1
  | leaf written => exact (List.cons.inj same).1

theorem exists_leaf {operand : Operand (Inside levels)} {token : String} {tokens : List String}
    (same : Phrase.tokens operand ++ after = token :: tokens) (other : token ≠ "(") :
    ∃ leaf : Leaf, operand = .leaf leaf ∧ leaf.name = token ∧
      leaf.condition.tokens ++ after = tokens := by
  cases operand with
  | group inner => exact absurd (List.cons.inj same).1.symm other
  | leaf written => exact ⟨written, rfl, List.cons.inj same⟩

theorem Phrase.Condition.name_atom (condition : Condition) (name : String) :
    (condition.atom name).name = name := by
  cases condition <;> rfl

theorem Grammar.atom_compare (name : String) (operator : Operator) (literal : String)
    (rest : List String) :
    atom (name :: operator.symbol :: literal :: rest) =
      .ok (.compare name operator (Value.ofToken literal), rest) := by
  simp [atom, endsAtom_symbol operator, takeWord_symbol operator (.inl rfl),
    takeWord_symbol operator (.inr rfl), comparison, Operator.ofToken?_eq_some_iff.mpr rfl]

namespace Atom

variable {leaf : Atom} {written : Leaf}

theorem reread_faithful (restorable : leaf.Restorable (hasQuote rest)) (named : leaf.WellNamed)
    (separated : Separated rest.toList) (restEnds : EndsOperand (tokenize rest))
    (ends : EndsOperand after) (name : written.name = leaf.name)
    (same : written.condition.tokens ++ after = tokenize (leaf.tail ++ rest)) :
    written.atom = leaf ∧ after = tokenize rest := by
  obtain ⟨condition, restored, written'⟩ := exists_condition restorable
  have tokens : written.tokens ++ after =
      (Leaf.mk leaf.name named.notOpening condition).tokens ++ tokenize rest := by
    change written.name :: (written.condition.tokens ++ after) =
      leaf.name :: (condition.tokens ++ _)
    rw [same, written' rest separated, name]
  obtain ⟨rfl, rests⟩ := Grammar.leaf_unambiguous ends restEnds tokens
  exact ⟨restored, rests⟩

theorem reread_misread {name : String} {operator : Operator} {value : Value}
    (broken : ¬ value.Restorable) (separated : Separated rest.toList) (ends : EndsOperand after)
    (sameName : written.name = name)
    (same : written.condition.tokens ++ after =
      tokenize ((compare name operator value).tail ++ rest)) :
    (written.atom == compare name operator value) = false := by
  obtain ⟨literal, tokens, tokenized, differ⟩ := Value.exists_misread broken separated
  have symbol : operator.symbol ≠ "'" := by cases operator <;> decide
  have read := Grammar.atom_leaf written ends
  have shape : written.tokens ++ after = name :: operator.symbol :: literal :: tokens := by
    change written.name :: (written.condition.tokens ++ after) = _
    rw [same, sameName]
    simp only [tail, String.append_assoc]
    rw [tokenize_word operator.shape_symbol (separated_append (.inl rfl) _) symbol, tokenize_space,
      tokenized]
  rw [shape, Grammar.atom_compare] at read
  obtain ⟨atom, -⟩ := Prod.mk.inj (Except.ok.inj read)
  rw [← atom]
  change (name == name && (operator == operator && Value.ofToken literal == value)) = false
  rw [differ, Bool.and_false, Bool.and_false]

theorem tokenize_render (named : leaf.WellNamed) (separated : Separated rest.toList) :
    (tokenize (leaf.render ++ rest) = leaf.name :: tokenize (leaf.tail ++ rest) ∧
      (leaf.name = "'" → hasQuote (leaf.tail ++ rest) = false)) ∨
    ∃ token tokens, tokenize (leaf.render ++ rest) = token :: tokens ∧ token ≠ leaf.name ∧
      token.toList.head? = some '\'' := by
  rw [render_eq, String.append_assoc]
  by_cases fused : leaf.name = "'" ∧ hasQuote (leaf.tail ++ rest) = true
  · rw [fused.1]
    exact .inr (tokenize_fused fused.2)
  · have unclosed : leaf.name = "'" → hasQuote (leaf.tail ++ rest) = false := by
      intro lone
      rw [← Bool.not_eq_true]
      exact fun quote => fused ⟨lone, quote⟩
    exact .inl ⟨tokenize_append named.shape (separated_tail separated) unclosed, unclosed⟩

theorem reread (named : leaf.WellNamed) {operand : Operand (Inside levels)}
    (separated : Separated rest.toList) (restEnds : EndsOperand (tokenize rest))
    (ends : EndsOperand after)
    (same : Phrase.tokens operand ++ after = tokenize (leaf.render ++ rest)) :
    Reread levels operand (.atom leaf) after rest := by
  rcases tokenize_render named separated with
    ⟨tokenized, unclosed⟩ | ⟨token, tokens, tokenized, differ, quote⟩
  · rw [tokenized] at same
    obtain ⟨written, rfl, name, condition⟩ := exists_leaf same named.notOpening
    by_cases literal : ∀ name operator value, leaf = .compare name operator value → value.Restorable
    · have restorable : leaf.Restorable (hasQuote rest) := by
        refine ⟨fun lone => ?_, literal⟩
        have quiet := unclosed lone
        rw [hasQuote_append] at quiet
        exact Bool.or_eq_false_iff.mp quiet
      obtain ⟨atom, rests⟩ :=
        reread_faithful restorable named separated restEnds ends name condition
      exact .inl ⟨restorable, congrArg Expr.atom atom, rests⟩
    · obtain ⟨other, operator, value, rfl, broken⟩ : ∃ name operator value,
          leaf = .compare name operator value ∧ ¬ value.Restorable := by
        simpa using literal
      exact .inr (.inl (reread_misread broken separated ends name condition))
  · rw [tokenized] at same
    have other : token ≠ "(" := by
      rintro rfl
      exact absurd quote (by decide)
    obtain ⟨written, rfl, name, -⟩ := exists_leaf same other
    right
    apply Clash.of_names
    change (written.condition.atom written.name).name ≠ leaf.name
    rw [Condition.name_atom, name]
    exact differ

end Atom

def RereadBy (Form : Nat → Type) [∀ levels, Phrase (Form levels)] (tree : Expr) : Prop :=
  ∀ (levels : Nat) (form : Form levels) {after : List String} {rest : String},
    Separated rest.toList → EndsOperand (tokenize rest) → EndsOperand after →
      Phrase.tokens form ++ after = tokenize (tree.render ++ rest) →
        Reread levels form tree after rest

theorem endsOperand_links {Group : Type} [Phrase Group] (links : List (Phrase.Link Group))
    {tokens : List String} (ends : EndsOperand tokens) :
    EndsOperand (Phrase.Link.tokens links ++ tokens) := by
  cases links with
  | nil => exact ends
  | cons link links =>
    rw [Phrase.Link.tokens_cons]
    exact Grammar.endsAtom_connective link.word _

theorem Connective.eq_of_word {connective other : Connective} (word : Keyword connective.word)
    (same : word.token = other.word) : connective = other := by
  have spelled := word.spelled
  rw [same] at spelled
  cases connective <;> cases other <;> first | rfl | exact absurd spelled (by decide)

theorem Connective.word_ne_closing {connective : Connective} (word : Keyword connective.word) :
    word.token ≠ ")" := by
  intro same
  have spelled := word.spelled
  rw [same] at spelled
  cases connective <;> exact absurd spelled (by decide)

theorem reread_right {connective : Connective} {right : Expr} {levels : Nat}
    {after : List String} {rest : String}
    (rightReread : RereadBy (fun levels => Negation (Inside levels)) right)
    (links : List (Phrase.Link (Inside levels)))
    (same : Phrase.Link.tokens links ++ ")" :: after =
      connective.word :: tokenize (right.render ++ (")" ++ rest))) :
    (right.Restorable levels (hasQuote rest) ∧ after = tokenize rest ∧
      ∃ link, links = [link] ∧ link.connective = connective ∧ Phrase.tree link.operand = right) ∨
    Clash (Phrase.Link.atoms links) right.atoms := by
  have groupEnds : EndsOperand (")" :: after) := rfl
  have closing : EndsOperand (tokenize (")" ++ rest)) := by
    rw [tokenize_parenthesis (.inr rfl)]
    rfl
  cases links with
  | nil => cases connective <;> exact absurd (List.cons.inj same).1 (by decide)
  | cons link more =>
    rw [Phrase.Link.tokens_cons, List.cons_append, List.append_assoc] at same
    obtain ⟨sameWord, operandTokens⟩ := List.cons.inj same
    have reread := rightReread _ link.operand (separated_append (.inr rfl) _) closing
      (endsOperand_links more groupEnds) operandTokens
    rcases reread with ⟨restorable, operandTree, moreTokens⟩ | clash
    · rw [tokenize_parenthesis (.inr rfl)] at moreTokens
      rw [hasQuote_closing] at restorable
      cases more with
      | nil =>
        exact .inl ⟨restorable, (List.cons.inj moreTokens).2, link, rfl,
          Connective.eq_of_word link.word sameWord, operandTree⟩
      | cons next more =>
        rw [Phrase.Link.tokens_cons] at moreTokens
        exact absurd (List.cons.inj moreTokens).1 (Connective.word_ne_closing next.word)
    · have longer := clash.append (Phrase.Link.atoms more) []
      rw [List.append_nil] at longer
      exact .inr longer

theorem reread_links {connective : Connective} {left right : Expr} {levels : Nat}
    {after : List String} {rest : String}
    (leftReread : RereadBy (fun levels => Negation (Inside levels)) left)
    (rightReread : RereadBy (fun levels => Negation (Inside levels)) right)
    (form : Disjunction (Inside levels))
    (same : Phrase.tokens form ++ ")" :: after = tokenize (left.render ++ (" " ++
      (connective.word ++ (" " ++ (right.render ++ (")" ++ rest))))))) :
    ((connective.build left right).Restorable (levels + 1) (hasQuote rest) ∧
      Phrase.tree form = connective.build left right ∧ after = tokenize rest) ∨
    Clash (Phrase.tree form).atoms (connective.build left right).atoms := by
  obtain ⟨first, links, tokens, atoms, single⟩ := Phrase.exists_links form
  have groupEnds : EndsOperand (")" :: after) := rfl
  have leftEnds : EndsOperand
      (tokenize (" " ++ (connective.word ++ (" " ++ (right.render ++ (")" ++ rest)))))) := by
    rw [tokenize_between]
    exact Grammar.endsAtom_connective ⟨connective.word, Text.sameFolded_refl _⟩ _
  rw [tokens, List.append_assoc] at same
  rw [atoms, Expr.atoms_build]
  have firstReread := leftReread _ first (separated_append (.inl rfl) _) leftEnds
    (endsOperand_links links groupEnds) same
  rcases firstReread with ⟨leftRestorable, firstTree, linkTokens⟩ | clash
  · rw [tokenize_between] at linkTokens
    rw [hasQuote_between] at leftRestorable
    rcases reread_right rightReread links linkTokens with
      ⟨rightRestorable, rests, link, rfl, rfl, operandTree⟩ | clash
    · have parts := And.intro leftRestorable rightRestorable
      refine .inl ⟨Expr.restorable_build.mpr ⟨levels, rfl, parts⟩, ?_, rests⟩
      rw [single link rfl, firstTree, operandTree]
    · rw [firstTree]
      exact .inr (clash.prepend left.atoms)
  · exact .inr (clash.append _ _)

theorem reread_joined {connective : Connective} {left right : Expr}
    (leftReread : RereadBy (fun levels => Negation (Inside levels)) left)
    (rightReread : RereadBy (fun levels => Negation (Inside levels)) right) :
    RereadBy (fun levels => Operand (Inside levels)) (connective.build left right) := by
  intro levels operand after rest separated restEnds ends same
  rw [Expr.render_build_append, tokenize_parenthesis (.inl rfl)] at same
  cases operand with
  | leaf written => exact absurd (List.cons.inj same).1 written.notOpening
  | group sentence =>
    cases levels with
    | zero => exact sentence.elim
    | succ levels =>
      obtain ⟨form, formTokens, formTree⟩ := Phrase.exists_disjunction levels sentence
      have inner := (congrArg (· ++ ")" :: after) formTokens).trans
        ((List.append_cons _ _ _).trans (List.cons.inj same).2)
      rcases reread_links leftReread rightReread form inner with ⟨restorable, tree, rests⟩ | clash
      · exact .inl ⟨restorable, formTree.symm.trans tree, rests⟩
      · rw [formTree] at clash
        exact .inr clash

theorem Expr.exists_leftmost {tree : Expr} {negated : Bool} (named : tree.WellNamed negated)
    (separated : Separated rest.toList) :
    ∃ leaf others, tree.atoms = leaf :: others ∧ (leaf.name = "NOT" →
      ∃ token tokens, tokenize (tree.render ++ rest) = token :: tokens ∧
        (token = "NOT" ∨ token = "(")) := by
  induction tree using connectiveInduction generalizing negated rest with
  | atom leaf =>
    refine ⟨leaf, [], rfl, fun name => ⟨"NOT", tokenize (leaf.tail ++ rest), ?_, .inl rfl⟩⟩
    have other : leaf.name ≠ "'" := by
      rw [name]
      decide
    rw [← name, render, Atom.render_eq, String.append_assoc,
      tokenize_append named.1.shape (Atom.separated_tail separated) fun same => absurd same other]
  | not inner ih =>
    obtain ⟨leaf, others, atoms, -⟩ := ih named separated
    refine ⟨leaf, others, atoms, fun _ => ⟨"NOT", tokenize (inner.render ++ rest), ?_, .inl rfl⟩⟩
    exact tokenize_not inner rest
  | joined connective left right leftIh rightIh =>
    obtain ⟨leaf, others, atoms, -⟩ :=
      leftIh (wellNamed_build.mp named).1 (separated_append (.inl rfl) "")
    refine ⟨leaf, others ++ right.atoms, ?_, fun _ => ?_⟩
    · rw [Expr.atoms_build, atoms, List.cons_append]
    · rw [render_build_append, tokenize_parenthesis (.inl rfl)]
      exact ⟨"(", _, rfl, .inr rfl⟩

theorem Phrase.Keyword.token_ne {word other : String} (keyword : Keyword word)
    (differ : Text.sameFolded other word = false) : keyword.token ≠ other := by
  intro same
  have spelled := keyword.spelled
  rw [same] at spelled
  exact Bool.false_ne_true (differ.symm.trans spelled)

theorem Grammar.atom_double_not {token : String} {tokens rest : List String} {value : Atom}
    (first : token = "NOT" ∨ token = "(")
    (read : atom ("NOT" :: token :: tokens) = .ok (value, rest)) :
    value = .present "NOT" ∧ token = "NOT" ∧
      ∃ null : Keyword "NULL", tokens = null.token :: rest := by
  rcases first with rfl | rfl
  · rw [atom, if_neg (by simp [endsAtom_keyword ⟨"NOT", by decide⟩ (.inl rfl)]),
      takeWord_keyword ⟨"NOT", by decide⟩] at read
    obtain ⟨tail, required, found⟩ := Fallible.bind_eq_ok_iff.mp read
    obtain ⟨null, rfl⟩ := takeWord_eq_some_iff.mp (requireWord_eq_ok_iff.mp required)
    obtain ⟨rfl, rfl⟩ := Prod.mk.inj (Except.ok.inj found)
    exact ⟨rfl, rfl, null, rfl⟩
  · cases read

theorem Expr.second_token {tree : Expr} {others : List Atom} {second : String}
    {tokens : List String} (named : tree.WellNamed true) (separated : Separated rest.toList)
    (atoms : tree.atoms = .present "NOT" :: others)
    (tokenized : tokenize (tree.render ++ rest) = "NOT" :: second :: tokens) :
    second = "NOT" ∨ second = "(" := by
  cases tree using connectiveInduction with
  | atom leaf =>
    obtain ⟨rfl, -⟩ := List.cons.inj atoms
    have lone : "NOT" ≠ "'" := by decide
    rw [render, Atom.render_eq, String.append_assoc] at tokenized
    change tokenize ("NOT" ++ ((Atom.present "NOT").tail ++ rest)) = _ at tokenized
    rw [tokenize_append shape_not (Atom.separated_tail separated) fun same => absurd same lone]
      at tokenized
    simp only [Atom.tail, String.append_assoc] at tokenized
    rw [tokenize_word shape_not (separated_append (.inl rfl) _) lone] at tokenized
    exact .inl (List.cons.inj (List.cons.inj tokenized).2).1.symm
  | not inner =>
    rw [tokenize_not] at tokenized
    have innerNamed : inner.WellNamed true := named
    obtain ⟨leaf, _, innerAtoms, leftmost⟩ := exists_leftmost innerNamed separated
    obtain ⟨rfl, -⟩ := List.cons.inj (innerAtoms.symm.trans atoms)
    obtain ⟨token, tokens, innerTokens, first⟩ := leftmost rfl
    rw [innerTokens] at tokenized
    obtain ⟨rfl, -⟩ := List.cons.inj (List.cons.inj tokenized).2
    exact first
  | joined connective left right =>
    rw [render_build_append, tokenize_parenthesis (.inl rfl)] at tokenized
    exact absurd (List.cons.inj tokenized).1 (by decide)

theorem clash_of_double_not {inner : Expr} (named : inner.WellNamed true)
    (separated : Separated rest.toList) (ends : EndsOperand after)
    {operand : Operand (Inside levels)}
    (same : Phrase.tokens operand ++ after = "NOT" :: tokenize (inner.render ++ rest)) :
    Clash (Phrase.tree operand).atoms inner.atoms := by
  obtain ⟨written, rfl, name, condition⟩ := exists_leaf same (by decide)
  obtain ⟨leaf, others, atoms, leftmost⟩ := Expr.exists_leftmost named separated
  rw [atoms]
  left
  rw [← Bool.not_eq_true]
  intro equal
  have leafName : leaf.name = "NOT" := by
    rw [← Atom.name_eq_of_beq equal]
    exact (Condition.name_atom _ _).trans name
  obtain ⟨token, tokens, tokenized, first⟩ := leftmost leafName
  have read := Grammar.atom_leaf written ends
  have shape : written.tokens ++ after = "NOT" :: token :: tokens := same.trans (by rw [tokenized])
  rw [shape] at read
  obtain ⟨present, rfl, null, rfl⟩ := Grammar.atom_double_not first read
  obtain rfl : leaf = .present "NOT" := by
    change (written.atom == leaf) = true at equal
    rw [present] at equal
    exact Atom.eq_present_of_beq equal
  rcases Expr.second_token named separated atoms tokenized with negation | opening
  · exact null.token_ne (by decide) negation
  · exact null.token_ne (by decide) opening

theorem reread_not {inner : Expr} (named : inner.WellNamed true)
    (operandReread : inner.isNot = false → RereadBy (fun levels => Operand (Inside levels)) inner) :
    RereadBy (fun levels => Negation (Inside levels)) (.not inner) := by
  intro levels form after rest separated restEnds ends same
  rw [tokenize_not] at same
  cases form with
  | plain operand other =>
    have opening := opening_eq same
    rw [opening] at other
    exact absurd other (by decide)
  | negated word operand =>
    have inside := (List.cons.inj same).2
    cases negation : inner.isNot with
    | false =>
      rcases operandReread negation _ operand separated restEnds ends inside with
        ⟨restorable, tree, rests⟩ | clash
      · exact .inl ⟨⟨negation, restorable⟩, congrArg Expr.not tree, rests⟩
      · exact .inr clash
    | true =>
      right
      cases inner with
      | not nested =>
        have nestedNamed : nested.WellNamed true := named
        have shape := inside.trans (tokenize_not nested rest)
        exact clash_of_double_not nestedNamed separated ends shape
      | _ => cases negation

theorem reread_plain {tree : Expr}
    (first : ∀ rest : String, Separated rest.toList → ∃ token tokens,
      tokenize (tree.render ++ rest) = token :: tokens ∧ Text.sameFolded token "NOT" = false)
    (operandReread : RereadBy (fun levels => Operand (Inside levels)) tree) :
    RereadBy (fun levels => Negation (Inside levels)) tree := by
  intro levels form after rest separated restEnds ends same
  cases form with
  | plain operand other => exact operandReread _ operand separated restEnds ends same
  | negated word operand =>
    obtain ⟨token, tokens, tokenized, other⟩ := first rest separated
    rw [tokenized] at same
    have token : word.token = token := (List.cons.inj same).1
    have spelled := word.spelled
    rw [token] at spelled
    exact absurd (other.symm.trans spelled) Bool.false_ne_true

end Operands

namespace Expr

theorem reread (tree : Expr) :
    (tree.isNot = false → tree.WellNamed true →
      RereadBy (fun levels => Operand (Inside levels)) tree) ∧
    (tree.WellNamed false → RereadBy (fun levels => Negation (Inside levels)) tree) := by
  -- Both forms at once: a group goes on with negations, a negation with an operand.
  induction tree using connectiveInduction with
  | atom leaf =>
    have operandReread : leaf.WellNamed →
        RereadBy (fun levels => Operand (Inside levels)) (.atom leaf) :=
      fun named _ operand _ _ separated restEnds ends same =>
        Atom.reread named separated restEnds ends same
    refine ⟨fun _ named => operandReread named.1, fun named => ?_⟩
    refine reread_plain ?_ (operandReread named.1)
    intro rest separated
    rcases Atom.tokenize_render named.1 separated with
      ⟨tokenized, -⟩ | ⟨token, tokens, tokenized, -, quote⟩
    · exact ⟨leaf.name, _, tokenized, named.2 rfl⟩
    · obtain ⟨tail, shape⟩ := List.head?_eq_some_iff.mp quote
      exact ⟨token, tokens, tokenized, Literal.sameFolded_of_head shape rfl (by decide)⟩
  | not inner ih =>
    refine ⟨fun impossible => Bool.noConfusion impossible, fun named => ?_⟩
    exact reread_not named fun plain => ih.1 plain named
  | joined connective left right leftIh rightIh =>
    have operandReread : (connective.build left right).WellNamed false →
        RereadBy (fun levels => Operand (Inside levels)) (connective.build left right) := by
      intro named
      obtain ⟨leftNamed, rightNamed⟩ := wellNamed_build.mp named
      exact reread_joined (leftIh.2 leftNamed) (rightIh.2 rightNamed)
    refine ⟨fun _ named => operandReread (wellNamed_build.mpr (wellNamed_build.mp named)),
      fun named => ?_⟩
    refine reread_plain ?_ (operandReread named)
    intro rest separated
    rw [render_build_append, tokenize_parenthesis (.inl rfl)]
    exact ⟨"(", _, rfl, by decide⟩

end Expr

end Verdict
