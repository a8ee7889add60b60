import Verdict.Proofs.Evaluation.Acceptance
import Verdict.Proofs.Value.Literal

/-! Canonical text as a phrase. `Restorable` says of a tree what its canonical text has to keep; the
tokens of such a text are those of a phrase that stands for the tree. -/

namespace Verdict

open Lexeme
open Phrase (Condition Leaf Operand Negation Chain Conjunction Disjunction Sentence Keyword)

namespace Atom

structure WellNamed (leaf : Atom) : Prop where
  shape : Shape leaf.name.toList
  notOpening : leaf.name ≠ "("

def tail : Atom → String
  | .compare _ operator literal => " " ++ (operator.symbol ++ (" " ++ literalText literal))
  | .absent _ => " " ++ "NULL"
  | .present _ => " " ++ ("NOT" ++ (" " ++ "NULL"))
  | .bare _ => ""

theorem render_eq (leaf : Atom) : leaf.render = leaf.name ++ leaf.tail := by
  cases leaf with
  | compare name operator literal =>
    change name ++ " " ++ operator.symbol ++ " " ++ literalText literal = name ++ _
    simp only [String.append_assoc, tail]
  | absent name => rfl
  | present name => rfl
  | bare name => exact (String.append_empty).symm

/-- A lone quote as a name must not meet another quote, neither in the atom nor in the text after
it. -/
structure Restorable (later : Bool) (leaf : Atom) : Prop where
  closed : leaf.name = "'" → hasQuote leaf.tail = false ∧ later = false
  literal : ∀ name operator value, leaf = .compare name operator value → value.Restorable

end Atom

namespace Expr

def isNot : Expr → Bool
  | .not _ => true
  | _ => false

def WellNamed : Bool → Expr → Prop
  | negated, .atom leaf =>
    leaf.WellNamed ∧ (negated = false → Text.sameFolded leaf.name "NOT" = false)
  | _, .not inner => inner.WellNamed true
  | _, .and left right => left.WellNamed false ∧ right.WellNamed false
  | _, .or left right => left.WellNamed false ∧ right.WellNamed false

/-- The tree comes back from its canonical text when groups may be opened so many levels deep.
`later` tells whether a quote may stand after the text. -/
def Restorable : Nat → Bool → Expr → Prop
  | _, later, .atom leaf => leaf.Restorable later
  | levels, later, .not inner => inner.isNot = false ∧ inner.Restorable levels later
  | 0, _, .and _ _ => False
  | 0, _, .or _ _ => False
  | levels + 1, later, .and left right =>
    left.Restorable levels (hasQuote right.render || later) ∧ right.Restorable levels later
  | levels + 1, later, .or left right =>
    left.Restorable levels (hasQuote right.render || later) ∧ right.Restorable levels later

variable {connective : Connective} {left right : Expr}

theorem wellNamed_build {negated : Bool} :
    (connective.build left right).WellNamed negated ↔
      left.WellNamed false ∧ right.WellNamed false := by
  cases connective <;> exact Iff.rfl

theorem restorable_build {levels : Nat} {later : Bool} :
    (connective.build left right).Restorable levels later ↔
      ∃ below, levels = below + 1 ∧ left.Restorable below (hasQuote right.render || later) ∧
        right.Restorable below later := by
  cases levels with
  | zero =>
    refine ⟨fun absurd => ?_, ?_⟩
    · cases connective <;> exact absurd.elim
    · rintro ⟨below, impossible, -⟩
      contradiction
  | succ below =>
    have same : (connective.build left right).Restorable (below + 1) later ↔
        left.Restorable below (hasQuote right.render || later) ∧ right.Restorable below later := by
      cases connective <;> exact Iff.rfl
    rw [same]
    constructor
    · intro parts
      exact ⟨below, rfl, parts⟩
    · rintro ⟨levels, eq, parts⟩
      obtain rfl := Nat.succ.inj eq
      exact parts

theorem render_build_append (rest : String) :
    (connective.build left right).render ++ rest =
      "(" ++ (left.render ++ (" " ++ (connective.word ++
        (" " ++ (right.render ++ (")" ++ rest)))))) := by
  have andText : " AND " = " " ++ ("AND" ++ " ") := rfl
  have orText : " OR " = " " ++ ("OR" ++ " ") := rfl
  cases connective with
  | and =>
    change "(" ++ left.render ++ " AND " ++ right.render ++ ")" ++ rest = _
    rw [andText]
    simp only [String.append_assoc]
    rfl
  | or =>
    change "(" ++ left.render ++ " OR " ++ right.render ++ ")" ++ rest = _
    rw [orText]
    simp only [String.append_assoc]
    rfl

end Expr

theorem tokenize_word {word rest : String} (shape : Shape word.toList)
    (separated : Separated rest.toList) (other : word ≠ "'") :
    tokenize (" " ++ (word ++ rest)) = word :: tokenize rest := by
  rw [tokenize_space, tokenize_append shape separated fun same => absurd same other]

theorem Operator.shape_symbol (operator : Operator) : Shape operator.symbol.toList := by
  cases operator with
  | equal => exact .single '=' (by decide) (by decide) (by decide)
  | notEqual => exact .pair '!' (by decide)
  | greater => exact .single '>' (by decide) (by decide) (by decide)
  | greaterOrEqual => exact .pair '>' (by decide)
  | less => exact .single '<' (by decide) (by decide) (by decide)
  | lessOrEqual => exact .pair '<' (by decide)

theorem Connective.shape_word (connective : Connective) : Shape connective.word.toList := by
  cases connective with
  | and => exact .spelled 'A' ['N', 'D'] (by decide) (by decide)
  | or => exact .spelled 'O' ['R'] (by decide) (by decide)

theorem shape_not : Shape "NOT".toList :=
  .spelled 'N' ['O', 'T'] (by decide) (by decide)

theorem shape_null : Shape "NULL".toList :=
  .spelled 'N' ['U', 'L', 'L'] (by decide) (by decide)

namespace Phrase

def Inside : Nat → Type
  | 0 => Empty
  | levels + 1 => Sentence levels

instance inside : (levels : Nat) → Phrase (Inside levels)
  | 0 => inferInstanceAs (Phrase Empty)
  | levels + 1 => sentence levels

theorem exists_sentence (levels : Nat) (form : Disjunction (Inside levels)) :
    ∃ sentence : Sentence levels, tokens sentence = tokens form ∧ tree sentence = tree form := by
  cases levels with
  | zero => exact ⟨form, rfl, rfl⟩
  | succ levels => exact ⟨form, rfl, rfl⟩

theorem exists_disjunction (levels : Nat) (sentence : Sentence levels) :
    ∃ form : Disjunction (Inside levels),
      tokens form = tokens sentence ∧ tree form = tree sentence := by
  cases levels with
  | zero => exact ⟨sentence, rfl, rfl⟩
  | succ levels => exact ⟨sentence, rfl, rfl⟩

theorem exists_pair {Group : Type} [Phrase Group] (connective : Connective)
    (left right : Negation Group) :
    ∃ form : Disjunction Group,
      tree form = connective.build (tree left) (tree right) ∧
        tokens form = tokens left ++ connective.word :: tokens right := by
  cases connective with
  | and =>
    refine ⟨⟨⟨left, [(⟨"AND", by decide⟩, right)]⟩, []⟩, rfl, ?_⟩
    change tokens left ++ ("AND" :: tokens right ++ []) ++ [] = _
    rw [List.append_nil, List.append_nil]
    rfl
  | or =>
    refine ⟨⟨⟨left, []⟩, [(⟨"OR", by decide⟩, ⟨right, []⟩)]⟩, rfl, ?_⟩
    change tokens left ++ [] ++ ("OR" :: (tokens right ++ []) ++ []) = _
    rw [List.append_nil, List.append_nil, List.append_nil]
    rfl

variable {Form : Type} [Phrase Form]

structure Writes (form : Form) (tree : Expr) (later : Bool) : Prop where
  tree_eq : Phrase.tree form = tree
  tokens_eq : ∀ rest : String, Separated rest.toList → (hasQuote rest = true → later = true) →
    tokenize (tree.render ++ rest) = tokens form ++ tokenize rest

end Phrase

open Phrase (Inside Writes)

section Canonical

variable {levels : Nat} {later : Bool}

theorem Value.Restorable.literalText_ne {value : Value} (restorable : value.Restorable) :
    Atom.literalText value ≠ "'" := by
  intro lone
  have denoted := restorable.ofToken_eq
  rw [lone] at denoted
  have quote : value = .string "'" := denoted.symm
  rw [quote] at restorable
  exact absurd restorable (by decide : ¬ hasQuote "'" = false)

namespace Atom

variable {leaf : Atom}

theorem separated_tail {rest : String} (separated : Separated rest.toList) :
    Separated (leaf.tail ++ rest).toList := by
  cases leaf with
  | bare name =>
    rw [tail, String.empty_append]
    exact separated
  | compare name operator literal =>
    rw [tail, String.append_assoc]
    exact separated_append (.inl rfl) _
  | absent name =>
    rw [tail, String.append_assoc]
    exact separated_append (.inl rfl) _
  | present name =>
    rw [tail, String.append_assoc]
    exact separated_append (.inl rfl) _

theorem exists_condition (restorable : leaf.Restorable later) :
    ∃ condition : Condition, condition.atom leaf.name = leaf ∧
      ∀ rest : String, Separated rest.toList →
        tokenize (leaf.tail ++ rest) = condition.tokens ++ tokenize rest := by
  cases leaf with
  | compare name operator value =>
    have literal := restorable.literal name operator value rfl
    have symbol : operator.symbol ≠ "'" := by cases operator <;> decide
    refine ⟨.compare operator (literalText value), ?_, ?_⟩
    · rw [Condition.atom, literal.ofToken_eq]
      rfl
    · intro rest separated
      simp only [tail, String.append_assoc]
      rw [tokenize_word operator.shape_symbol (separated_append (.inl rfl) _) symbol,
        tokenize_word literal.shape separated literal.literalText_ne]
      rfl
  | absent name =>
    refine ⟨.absent ⟨"NULL", by decide⟩, rfl, ?_⟩
    intro rest separated
    rw [tail, String.append_assoc]
    exact tokenize_word shape_null separated (by decide)
  | present name =>
    refine ⟨.present ⟨"NOT", by decide⟩ ⟨"NULL", by decide⟩, rfl, ?_⟩
    intro rest separated
    simp only [tail, String.append_assoc]
    rw [tokenize_word shape_not (separated_append (.inl rfl) _) (by decide),
      tokenize_word shape_null separated (by decide)]
    rfl
  | bare name =>
    refine ⟨.bare, rfl, ?_⟩
    intro rest separated
    rw [tail, String.empty_append]
    rfl

theorem exists_writes (named : leaf.WellNamed) (restorable : leaf.Restorable later) :
    ∃ operand : Operand (Inside levels),
      Writes operand (.atom leaf) later ∧ operand.opening = leaf.name := by
  obtain ⟨condition, same, written⟩ := exists_condition restorable
  refine ⟨.leaf ⟨leaf.name, named.notOpening, condition⟩, ⟨congrArg Expr.atom same, ?_⟩, rfl⟩
  intro rest separated quotes
  have unclosed : leaf.name = "'" → hasQuote (leaf.tail ++ rest) = false := by
    intro lone
    obtain ⟨quiet, last⟩ := restorable.closed lone
    rw [hasQuote_append, quiet, Bool.false_or, ← Bool.not_eq_true]
    intro quote
    exact Bool.false_ne_true (last.symm.trans (quotes quote))
  rw [Expr.render, render_eq, String.append_assoc,
    tokenize_append named.shape (separated_tail separated) unclosed, written rest separated]
  rfl

end Atom

theorem tokenize_not (inner : Expr) (rest : String) :
    tokenize ((Expr.not inner).render ++ rest) = "NOT" :: tokenize (inner.render ++ rest) := by
  have text : (Expr.not inner).render ++ rest = "NOT" ++ (" " ++ (inner.render ++ rest)) := by
    have word : "NOT " = "NOT" ++ " " := rfl
    change "NOT " ++ inner.render ++ rest = _
    rw [word]
    simp only [String.append_assoc]
  have other : "NOT" ≠ "'" := by decide
  rw [text, tokenize_append shape_not (separated_append (.inl rfl) _) fun same => absurd same other,
    tokenize_space]

theorem hasQuote_closing (rest : String) : hasQuote (")" ++ rest) = hasQuote rest := by
  have closing : hasQuote ")" = false := by decide
  rw [hasQuote_append, closing, Bool.false_or]

theorem hasQuote_between (connective : Connective) (right rest : String) :
    hasQuote (" " ++ (connective.word ++ (" " ++ (right ++ (")" ++ rest))))) =
      (hasQuote right || hasQuote rest) := by
  have word : hasQuote connective.word = false := by cases connective <;> decide
  have space : hasQuote " " = false := by decide
  rw [hasQuote_append, hasQuote_append, hasQuote_append, hasQuote_append, hasQuote_closing, word,
    space, Bool.false_or, Bool.false_or, Bool.false_or]

theorem tokenize_between (connective : Connective) (right rest : String) :
    tokenize (" " ++ (connective.word ++ (" " ++ (right ++ (")" ++ rest))))) =
      connective.word :: tokenize (right ++ (")" ++ rest)) := by
  have other : connective.word ≠ "'" := by cases connective <;> decide
  rw [tokenize_word connective.shape_word (separated_append (.inl rfl) _) other, tokenize_space]

namespace Phrase.Writes

theorem negated {operand : Operand (Inside levels)} {inner : Expr}
    (writes : Writes operand inner later) :
    Writes (Negation.negated ⟨"NOT", by decide⟩ operand) (.not inner) later := by
  refine ⟨congrArg Expr.not writes.tree_eq, ?_⟩
  intro rest separated quotes
  rw [tokenize_not, writes.tokens_eq rest separated quotes]
  rfl

theorem plain {operand : Operand (Inside levels)} {tree : Expr} (writes : Writes operand tree later)
    (other : Text.sameFolded operand.opening "NOT" = false) :
    Writes (Negation.plain operand other) tree later :=
  ⟨writes.tree_eq, writes.tokens_eq⟩

theorem joined {connective : Connective} {left right : Expr}
    {leftForm rightForm : Negation (Inside levels)}
    (leftWrites : Writes leftForm left (hasQuote right.render || later))
    (rightWrites : Writes rightForm right later) :
    ∃ operand : Operand (Inside (levels + 1)),
      Writes operand (connective.build left right) later ∧ operand.opening = "(" := by
  obtain ⟨form, formTree, formTokens⟩ := exists_pair connective leftForm rightForm
  rw [leftWrites.tree_eq, rightWrites.tree_eq] at formTree
  obtain ⟨sentence, sentenceTokens, sentenceTree⟩ := Phrase.exists_sentence levels form
  refine ⟨.group sentence, ⟨sentenceTree.trans formTree, ?_⟩, rfl⟩
  intro rest separated quotes
  have leftQuotes : hasQuote
      (" " ++ (connective.word ++ (" " ++ (right.render ++ (")" ++ rest))))) = true →
        (hasQuote right.render || later) = true := by
    rw [hasQuote_between, Bool.or_eq_true, Bool.or_eq_true]
    exact Or.imp_right quotes
  have rightQuotes : hasQuote (")" ++ rest) = true → later = true := by
    rw [hasQuote_closing]
    exact quotes
  rw [Expr.render_build_append, tokenize_parenthesis (.inl rfl),
    leftWrites.tokens_eq _ (separated_append (.inl rfl) _) leftQuotes, tokenize_between,
    rightWrites.tokens_eq _ (separated_append (.inr rfl) _) rightQuotes,
    tokenize_parenthesis (.inr rfl)]
  change _ = "(" :: (Phrase.tokens sentence ++ [")"]) ++ tokenize rest
  rw [sentenceTokens, formTokens]
  simp

end Phrase.Writes

namespace Expr

theorem exists_writes {tree : Expr} (restorable : tree.Restorable levels later) :
    (tree.isNot = false → tree.WellNamed true → ∃ operand : Operand (Inside levels),
      Writes operand tree later) ∧
    (tree.WellNamed false → ∃ negation : Negation (Inside levels), Writes negation tree later) := by
  induction tree using connectiveInduction generalizing levels later with
  | atom leaf =>
    constructor
    · intro _ named
      obtain ⟨operand, writes, -⟩ := Atom.exists_writes named.1 restorable
      exact ⟨operand, writes⟩
    · intro named
      obtain ⟨operand, writes, opening⟩ := Atom.exists_writes named.1 restorable
      exact ⟨_, writes.plain (opening ▸ named.2 rfl)⟩
  | not inner ih =>
    refine ⟨fun impossible => Bool.noConfusion impossible, ?_⟩
    intro named
    obtain ⟨operand, writes⟩ := (ih restorable.2).1 restorable.1 named
    exact ⟨_, writes.negated⟩
  | joined connective left right leftIh rightIh =>
    obtain ⟨below, rfl, leftRestorable, rightRestorable⟩ := restorable_build.mp restorable
    have operand : (connective.build left right).WellNamed false →
        ∃ operand : Operand (Inside (below + 1)),
          Writes operand (connective.build left right) later ∧ operand.opening = "(" := by
      intro named
      obtain ⟨leftNamed, rightNamed⟩ := wellNamed_build.mp named
      obtain ⟨leftForm, leftWrites⟩ := (leftIh leftRestorable).2 leftNamed
      obtain ⟨rightForm, rightWrites⟩ := (rightIh rightRestorable).2 rightNamed
      exact leftWrites.joined rightWrites
    constructor
    · intro _ named
      obtain ⟨operand, writes, -⟩ := operand (wellNamed_build.mpr (wellNamed_build.mp named))
      exact ⟨operand, writes⟩
    · intro named
      obtain ⟨operand, writes, opening⟩ := operand named
      exact ⟨_, writes.plain (by rw [opening]; decide)⟩

end Expr

end Canonical

end Verdict
