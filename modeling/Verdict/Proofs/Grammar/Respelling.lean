import Mathlib.Data.List.Forall2
import Verdict.Proofs.Grammar.Recognition
import Verdict.Proofs.Value.Folding

/-! Two runs of the descent over tokens that are pairwise the same but for the case of letters.
Every decision falls in the same way, so the runs differ in the spelling of names and texts and of
the tokens that a fault names, and in nothing else. -/

namespace Verdict

inductive Atom.Respelled (Pair : String → String → Prop) : Atom → Atom → Prop
  | compare {name other : String} {literal otherLiteral : Value} (operator : Operator)
      (names : Pair name other) (literals : literal.Respelled Pair otherLiteral) :
      Respelled Pair (.compare name operator literal) (.compare other operator otherLiteral)
  | absent {name other : String} (names : Pair name other) :
      Respelled Pair (.absent name) (.absent other)
  | present {name other : String} (names : Pair name other) :
      Respelled Pair (.present name) (.present other)
  | bare {name other : String} (names : Pair name other) :
      Respelled Pair (.bare name) (.bare other)

inductive Expr.Respelled (Pair : String → String → Prop) : Expr → Expr → Prop
  | atom {leaf other : Atom} (leaves : leaf.Respelled Pair other) :
      Respelled Pair (.atom leaf) (.atom other)
  | not {inner other : Expr} (inside : Respelled Pair inner other) :
      Respelled Pair (.not inner) (.not other)
  | and {left right otherLeft otherRight : Expr} (lefts : Respelled Pair left otherLeft)
      (rights : Respelled Pair right otherRight) :
      Respelled Pair (.and left right) (.and otherLeft otherRight)
  | or {left right otherLeft otherRight : Expr} (lefts : Respelled Pair left otherLeft)
      (rights : Respelled Pair right otherRight) :
      Respelled Pair (.or left right) (.or otherLeft otherRight)

inductive RuleError.Respelled (Pair : String → String → Prop) : RuleError → RuleError → Prop
  | unexpectedEnd : Respelled Pair .unexpectedEnd .unexpectedEnd
  | missing (expected : String) :
      Respelled Pair (.expectedToken expected none) (.expectedToken expected none)
  | expectedToken (expected : String) {token other : String} (tokens : Pair token other) :
      Respelled Pair (.expectedToken expected (some token)) (.expectedToken expected (some other))
  | unknownOperator {token other : String} (tokens : Pair token other) :
      Respelled Pair (.unknownOperator token) (.unknownOperator other)
  | trailingToken {token other : String} (tokens : Pair token other) :
      Respelled Pair (.trailingToken token) (.trailingToken other)
  | nestingTooDeep (limit : Nat) : Respelled Pair (.nestingTooDeep limit) (.nestingTooDeep limit)

theorem Operator.ofToken?_fold {token other : String}
    (same : Text.sameFolded token other = true) : ofToken? token = ofToken? other := by
  ext operator
  have symbols : ∀ symbol ∈ operator.symbol.toList, symbol.toNat < 65 := by
    cases operator <;> simp [symbol]
  rw [ofToken?_eq_some_iff, ofToken?_eq_some_iff, ← Text.sameFolded_symbol_iff symbols,
    ← Text.sameFolded_symbol_iff symbols, Text.sameFolded_congr same]

namespace Grammar

variable {α β : Type} {Pair : String → String → Prop} {tokens others : List String}

/-- Two outcomes that are the same but for spelling. -/
inductive Alike (Pair : String → String → Prop) (Same : α → α → Prop) :
    Except RuleError α → Except RuleError α → Prop
  | ok {value other : α} (same : Same value other) : Alike Pair Same (.ok value) (.ok other)
  | error {fault other : RuleError} (faults : fault.Respelled Pair other) :
      Alike Pair Same (.error fault) (.error other)

theorem Alike.bind {Same : α → α → Prop} {Next : β → β → Prop} {left right : Except RuleError α}
    {next otherNext : α → Except RuleError β} (start : Alike Pair Same left right)
    (continued : ∀ value other, left = .ok value → Same value other →
      Alike Pair Next (next value) (otherNext other)) :
    Alike Pair Next (left >>= next) (right >>= otherNext) := by
  cases start with
  | ok same => exact continued _ _ rfl same
  | error faults => exact .error faults

structure Read (Pair : String → String → Prop) (Same : α → α → Prop)
    (left right : α × List String) : Prop where
  values : Same left.1 right.1
  rests : List.Forall₂ Pair left.2 right.2

def Caseless (Pair : String → String → Prop) (Same : α → α → Prop)
    (run : List String → Except RuleError (α × List String)) : Prop :=
  ∀ {tokens others}, List.Forall₂ Pair tokens others →
    Alike Pair (Read Pair Same) (run tokens) (run others)

def Folds (Pair : String → String → Prop) : Prop :=
  ∀ {token other}, Pair token other → Text.sameFolded token other = true

/-- A reading that makes the same of both spellings. -/
structure Impartial (Pair : String → String → Prop) (reading : Reading α) (Same : α → α → Prop) :
    Prop where
  atom : ∀ {leaf other}, leaf.Respelled Pair other →
    Alike Pair Same (reading.atom leaf) (reading.atom other)
  negate : ∀ {value other}, Same value other → Same (reading.negate value) (reading.negate other)
  combine : ∀ (connective : Connective) {left right otherLeft otherRight},
    Same left otherLeft → Same right otherRight →
      Alike Pair Same (connective.combine reading left right)
        (connective.combine reading otherLeft otherRight)

section Words

variable (folds : Folds Pair) (pairs : List.Forall₂ Pair tokens others)

include folds pairs

theorem takeWord_alike (word : String) :
    (takeWord word tokens = none ∧ takeWord word others = none) ∨
      ∃ rest otherRest, takeWord word tokens = some rest ∧ takeWord word others = some otherRest ∧
        List.Forall₂ Pair rest otherRest := by
  cases pairs with
  | nil => exact .inl ⟨rfl, rfl⟩
  | @cons token other rest otherRest pair rests =>
    simp only [takeWord, Text.sameFolded_congr (folds pair) word]
    split
    · exact .inr ⟨rest, otherRest, rfl, rfl, rests⟩
    · exact .inl ⟨rfl, rfl⟩

theorem requireWord_alike (word : String) :
    Alike Pair (List.Forall₂ Pair) (requireWord word tokens) (requireWord word others) := by
  unfold requireWord
  rcases takeWord_alike folds pairs word with
    ⟨absent, otherAbsent⟩ | ⟨rest, otherRest, taken, otherTaken, rests⟩
  · rw [absent, otherAbsent]
    cases pairs with
    | nil => exact .error (.missing word)
    | cons pair _ => exact .error (.expectedToken word pair)
  · rw [taken, otherTaken]
    exact .ok rests

theorem endsAtom_alike : endsAtom tokens = endsAtom others := by
  cases pairs with
  | nil => rfl
  | @cons token other _ _ pair _ =>
    have closing : (token == ")") = (other == ")") := by
      rw [Bool.eq_iff_iff, beq_iff_eq, beq_iff_eq, ← Text.sameFolded_parenthesis_iff (.inr rfl),
        ← Text.sameFolded_parenthesis_iff (.inr rfl), Text.sameFolded_congr (folds pair)]
    simp only [endsAtom, closing, Text.sameFolded_congr (folds pair)]

theorem comparison_alike {name other : String} (names : Pair name other) :
    Alike Pair (Read Pair (Atom.Respelled Pair)) (comparison name tokens)
      (comparison other others) := by
  cases pairs with
  | nil => exact .error .unexpectedEnd
  | cons symbols rests =>
    simp only [comparison, Operator.ofToken?_fold (folds symbols)]
    split
    · exact .error (.unknownOperator symbols)
    · cases rests with
      | nil => exact .error .unexpectedEnd
      | cons literals rests =>
        exact .ok ⟨.compare _ names (Literal.ofToken_respelled literals (folds literals)), rests⟩

end Words

theorem atom_caseless (folds : Folds Pair) : Caseless Pair (Atom.Respelled Pair) atom := by
  intro tokens others pairs
  cases pairs with
  | nil => exact .error .unexpectedEnd
  | cons names rests =>
    rw [atom, atom, endsAtom_alike folds rests]
    split
    · exact .ok ⟨.bare names, rests⟩
    rcases takeWord_alike folds rests "NOT" with
      ⟨absent, otherAbsent⟩ | ⟨_, _, taken, otherTaken, afterNot⟩
    · rw [absent, otherAbsent]
      rcases takeWord_alike folds rests "NULL" with
        ⟨absent, otherAbsent⟩ | ⟨_, _, taken, otherTaken, afterNull⟩
      · rw [absent, otherAbsent]
        exact comparison_alike folds rests names
      · rw [taken, otherTaken]
        exact .ok ⟨.absent names, afterNull⟩
    · rw [taken, otherTaken]
      exact (requireWord_alike folds afterNot "NULL").bind fun _ _ _ afterNull =>
        .ok ⟨.present names, afterNull⟩

section Descent

variable {reading : Reading α} {Same : α → α → Prop} {inside : Option (Parser α)}

theorem operand_caseless (folds : Folds Pair) (impartial : Impartial Pair reading Same)
    (groups : ∀ parser, inside = some parser → Caseless Pair Same parser.run) :
    Caseless Pair Same (operand reading inside) := by
  intro tokens others pairs
  unfold operand
  rcases takeWord_alike folds pairs "(" with
    ⟨absent, otherAbsent⟩ | ⟨_, _, taken, otherTaken, afterOpening⟩
  · rw [absent, otherAbsent]
    refine (atom_caseless folds pairs).bind fun found other _ same => ?_
    exact (impartial.atom same.values).bind fun _ _ _ values => .ok ⟨values, same.rests⟩
  · rw [taken, otherTaken]
    cases inside with
    | none => exact .error (.nestingTooDeep maxNesting)
    | some parser =>
      refine (groups parser rfl afterOpening).bind fun _ _ _ same => ?_
      exact (requireWord_alike folds same.rests ")").bind fun _ _ _ rests =>
        .ok ⟨same.values, rests⟩

theorem negation_caseless (folds : Folds Pair) (impartial : Impartial Pair reading Same)
    (groups : ∀ parser, inside = some parser → Caseless Pair Same parser.run) :
    Caseless Pair Same (negation reading inside) := by
  intro tokens others pairs
  unfold negation
  rcases takeWord_alike folds pairs "NOT" with
    ⟨absent, otherAbsent⟩ | ⟨_, _, taken, otherTaken, afterNot⟩
  · rw [absent, otherAbsent]
    exact operand_caseless folds impartial groups pairs
  · rw [taken, otherTaken]
    exact (operand_caseless folds impartial groups afterNot).bind fun _ _ _ same =>
      .ok ⟨impartial.negate same.values, same.rests⟩

variable {connective : Connective} {link : Parser α}

theorem chainRest_caseless (folds : Folds Pair) (impartial : Impartial Pair reading Same)
    (links : Caseless Pair Same link.run) {left other : α} (lefts : Same left other)
    (pairs : List.Forall₂ Pair tokens others) :
    Alike Pair (Read Pair Same)
      (chainRest connective.word (connective.combine reading) link left tokens)
      (chainRest connective.word (connective.combine reading) link other others) := by
  -- The first run's tokens get fewer; the second run has as many.
  induction size : tokens.length using Nat.strongRecOn generalizing left other tokens others with
  | ind size ih =>
    subst size
    rcases takeWord_alike folds pairs connective.word with
      ⟨absent, otherAbsent⟩ | ⟨_, _, taken, otherTaken, afterWord⟩
    · rw [chainRest_none absent, chainRest_none otherAbsent]
      exact .ok ⟨lefts, pairs⟩
    · rw [chainRest_some taken, chainRest_some otherTaken]
      refine (links afterWord).bind fun read otherRead ran same => ?_
      refine (impartial.combine connective lefts same.values).bind fun _ _ _ joined => ?_
      have shorter := Nat.lt_trans (link.shortens ran) (takeWord_shortens taken)
      exact ih read.2.length shorter joined same.rests rfl

theorem chain_caseless (connective : Connective) (folds : Folds Pair)
    (impartial : Impartial Pair reading Same) (links : Caseless Pair Same link.run) :
    Caseless Pair Same (chain connective.word (connective.combine reading) link).run := by
  intro tokens others pairs
  exact (links pairs).bind fun _ _ _ same =>
    chainRest_caseless folds impartial links same.values same.rests

theorem disjunction_caseless (folds : Folds Pair) (impartial : Impartial Pair reading Same)
    (groups : ∀ parser, inside = some parser → Caseless Pair Same parser.run) :
    Caseless Pair Same (disjunction reading inside).run :=
  let link : Parser α := { run := negation reading inside, shortens := negation_shortens }
  have links : Caseless Pair Same link.run := negation_caseless folds impartial groups
  have conjunctions : Caseless Pair Same (conjunction reading inside).run :=
    chain_caseless .and folds impartial links
  chain_caseless .or folds impartial conjunctions

end Descent

theorem expression_caseless {reading : Reading α} {Same : α → α → Prop} (folds : Folds Pair)
    (impartial : Impartial Pair reading Same) (levels : Nat) :
    Caseless Pair Same (expression reading levels).run := by
  induction levels with
  | zero =>
    apply disjunction_caseless folds impartial
    rintro parser ⟨⟩
  | succ levels ih =>
    apply disjunction_caseless folds impartial
    rintro parser ⟨⟩
    exact ih

end Grammar

open Grammar (Alike Folds Impartial)

theorem Reading.read_alike {α : Type} {reading : Reading α} {Same : α → α → Prop}
    {Pair : String → String → Prop} (folds : Folds Pair) (impartial : Impartial Pair reading Same)
    {text other : String} (pairs : List.Forall₂ Pair (tokenize text) (tokenize other)) :
    Alike Pair Same (reading.read text) (reading.read other) := by
  refine (Grammar.expression_caseless folds impartial maxNesting pairs).bind ?_
  rintro ⟨value, rest⟩ ⟨otherValue, otherRest⟩ - ⟨values, rests⟩
  cases rests with
  | nil => exact .ok values
  | cons tokens _ => exact .error (.trailingToken tokens)

end Verdict
