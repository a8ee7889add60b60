import Verdict.Proofs.Expr.Canonical

/-! How high a compiled tree is. Its conjunctions and disjunctions keep the limit, but the negations
at its root are not counted against it. -/

namespace Verdict

open Lexeme
open Phrase (Condition Leaf Operand Negation Chain Conjunction Disjunction Sentence Keyword)

namespace Expr

def negations : Expr → Nat
  | .not inner => inner.negations + 1
  | _ => 0

def core : Expr → Expr
  | .not inner => inner.core
  | tree => tree

theorem core_build (connective : Connective) (left right : Expr) :
    (connective.build left right).core = connective.build left right := by
  cases connective <;> rfl

theorem height_eq_negations_add (tree : Expr) :
    tree.height = tree.negations + tree.core.height := by
  induction tree with
  | atom leaf => rfl
  | not inner ih =>
    simp only [height, negations, core]
    omega
  | and left right => exact (Nat.zero_add _).symm
  | or left right => exact (Nat.zero_add _).symm

variable {limit : Nat}

theorem JoinedWithin.height_build_le {connective : Connective} {left right : Expr}
    (within : (connective.build left right).JoinedWithin limit) :
    (connective.build left right).height ≤ limit := by
  rw [height_build]
  exact (joinedWithin_build.mp within).2.2

theorem JoinedWithin.core_height_le {tree : Expr} (within : tree.JoinedWithin limit)
    (positive : 0 < limit) : tree.core.height ≤ limit := by
  induction tree using connectiveInduction with
  | atom leaf => exact positive
  | not inner ih => exact ih within
  | joined connective left right =>
    rw [core_build]
    exact within.height_build_le

end Expr

def HeightWithin (Form : Type) [Phrase Form] (bound : Nat) : Prop :=
  ∀ form : Form, (Phrase.tree form).JoinedWithin maxHeight → (Phrase.tree form).height ≤ bound

section Bounds

variable {Group : Type} [Phrase Group] {bound : Nat}

theorem operand_height_le (groups : HeightWithin Group bound) (positive : 0 < bound) :
    HeightWithin (Operand Group) bound := by
  intro form within
  cases form with
  | group inner => exact groups inner within
  | leaf written => exact positive

theorem negation_height_le (operands : HeightWithin (Operand Group) bound) :
    HeightWithin (Negation Group) (bound + 1) := by
  intro form within
  cases form with
  | negated word operand => exact Nat.succ_le_succ (operands operand within)
  | plain operand other => exact Nat.le_succ_of_le (operands operand within)

theorem chain_height_le {connective : Connective} {Link : Type} [Phrase Link]
    (links : HeightWithin Link bound) (room : maxHeight ≤ bound) :
    HeightWithin (Chain connective Link) bound := by
  rintro ⟨first, rest⟩ within
  rcases List.eq_nil_or_concat rest with rfl | ⟨front, last, rfl⟩
  · exact links first within
  · -- The last link is joined at the root.
    have root : Phrase.tree (Chain.mk first (front ++ [last])) =
        connective.build (Chain.joined (Phrase.tree first) front) (Phrase.tree last.2) :=
      List.foldl_append
    rw [List.concat_eq_append, root] at within ⊢
    exact Nat.le_trans within.height_build_le room

theorem disjunction_height_le (negations : HeightWithin (Negation Group) bound)
    (room : maxHeight ≤ bound) : HeightWithin (Disjunction Group) bound :=
  chain_height_le (chain_height_le negations room) room

end Bounds

/-- Every level of groups makes room for one more negation over a tree of the greatest height. -/
theorem sentence_height_le (levels : Nat) :
    HeightWithin (Sentence levels) (maxHeight + levels) := by
  induction levels with
  | zero =>
    have leaves : HeightWithin (Operand Empty) 1 :=
      operand_height_le (fun form => form.elim) Nat.one_pos
    have negations : HeightWithin (Negation Empty) maxHeight := by
      intro form within
      exact Nat.le_trans (negation_height_le leaves form within) (by decide)
    exact disjunction_height_le negations (Nat.le_refl _)
  | succ levels ih =>
    have operands : HeightWithin (Operand (Sentence levels)) (maxHeight + levels) :=
      operand_height_le ih (Nat.add_pos_left (by decide) _)
    exact disjunction_height_le (negation_height_le operands) (Nat.le_add_right _ _)

section Chains

def chainTree : Nat → Expr
  | 0 => .atom (.bare "A")
  | links + 1 => .or (chainTree links) (.atom (.bare "A"))

def linksText : Nat → String
  | 0 => ""
  | links + 1 => " " ++ ("OR" ++ (" " ++ ("A" ++ linksText links)))

def negatedTree : Nat → Nat → Expr
  | 0, links => chainTree links
  | negations + 1, links => .not (negatedTree negations links)

def negatedText : Nat → Nat → String
  | 0, links => "A" ++ linksText links
  | negations + 1, links => "NOT" ++ (" " ++ ("(" ++ (negatedText negations links ++ ")")))

variable {negations links : Nat}

theorem height_chainTree (links : Nat) : (chainTree links).height = links + 1 := by
  induction links with
  | zero => rfl
  | succ links ih =>
    have top : (chainTree (links + 1)).height = max (chainTree links).height 1 + 1 := rfl
    omega

theorem height_negatedTree (negations links : Nat) :
    (negatedTree negations links).height = negations + links + 1 := by
  induction negations with
  | zero => rw [negatedTree, height_chainTree, Nat.zero_add]
  | succ negations ih =>
    have top : (negatedTree (negations + 1) links).height =
        (negatedTree negations links).height + 1 := rfl
    omega

theorem joinedWithin_chainTree (room : links < maxHeight) :
    (chainTree links).JoinedWithin maxHeight := by
  induction links with
  | zero => trivial
  | succ links ih =>
    have top : (chainTree (links + 1)).height ≤ maxHeight := by
      rw [height_chainTree]
      exact room
    exact ⟨ih (Nat.lt_of_succ_lt room), trivial, top⟩

theorem joinedWithin_negatedTree (room : links < maxHeight) :
    (negatedTree negations links).JoinedWithin maxHeight := by
  induction negations with
  | zero => exact joinedWithin_chainTree room
  | succ negations ih => exact ih

theorem chainName_ne_not : Text.sameFolded "A" "NOT" = false := by
  decide

section Form

variable (Group : Type)

def chainLink : Keyword Connective.or.word × Conjunction Group :=
  (⟨"OR", by decide⟩, ⟨.plain (.leaf ⟨"A", by decide, .bare⟩) chainName_ne_not, []⟩)

def chainForm (links : Nat) : Disjunction Group :=
  ⟨(chainLink Group).2, List.replicate links (chainLink Group)⟩

variable [Phrase Group]

theorem tree_chainForm (links : Nat) : Phrase.tree (chainForm Group links) = chainTree links := by
  induction links with
  | zero => rfl
  | succ links ih =>
    change Chain.joined _ (List.replicate (links + 1) (chainLink Group)) = _
    rw [List.replicate_succ', Chain.joined, List.foldl_append]
    exact congrArg (Expr.or · _) ih

theorem separated_linksText (links : Nat) {rest : String} (separated : Separated rest.toList) :
    Separated (linksText links ++ rest).toList := by
  cases links with
  | zero => rwa [linksText, String.empty_append]
  | succ links =>
    rw [linksText, String.append_assoc]
    exact separated_append (.inl rfl) _

theorem tokenize_linksText (links : Nat) {rest : String} (separated : Separated rest.toList) :
    tokenize (linksText links ++ rest) =
      Chain.restTokens (List.replicate links (chainLink Group)) ++ tokenize rest := by
  induction links with
  | zero => rw [linksText, String.empty_append]; rfl
  | succ links ih =>
    have word : Shape "OR".toList := Connective.or.shape_word
    have name : Shape "A".toList := .spelled 'A' [] (by decide) (by decide)
    rw [linksText, List.replicate_succ, Chain.restTokens_cons]
    simp only [String.append_assoc]
    rw [tokenize_word word (separated_append (.inl rfl) _) (by decide),
      tokenize_word name (separated_linksText links separated) (by decide), ih]
    rfl

theorem tokenize_chain (links : Nat) {rest : String} (separated : Separated rest.toList) :
    tokenize ("A" ++ linksText links ++ rest) =
      Phrase.tokens (chainForm Group links) ++ tokenize rest := by
  have name : Shape "A".toList := .spelled 'A' [] (by decide) (by decide)
  have other : "A" ≠ "'" := by decide
  rw [String.append_assoc, tokenize_append name (separated_linksText links separated)
    fun same => absurd same other, tokenize_linksText Group links separated]
  rfl

end Form

theorem tokenize_negatedText_succ (negations links : Nat) (rest : String) :
    tokenize (negatedText (negations + 1) links ++ rest) =
      "NOT" :: "(" :: tokenize (negatedText negations links ++ (")" ++ rest)) := by
  have other : "NOT" ≠ "'" := by decide
  rw [negatedText]
  simp only [String.append_assoc]
  rw [tokenize_append shape_not (separated_append (.inl rfl) _) fun same => absurd same other,
    tokenize_space, tokenize_parenthesis (.inl rfl)]

theorem exists_negated_sentence (links : Nat) {negations levels : Nat}
    (room : negations ≤ levels) :
    ∃ sentence : Sentence levels, Phrase.tree sentence = negatedTree negations links ∧
      ∀ rest : String, Separated rest.toList →
        tokenize (negatedText negations links ++ rest) =
          Phrase.tokens sentence ++ tokenize rest := by
  induction negations generalizing levels with
  | zero =>
    obtain ⟨sentence, tokens, tree⟩ :=
      Phrase.exists_sentence levels (chainForm (Phrase.Inside levels) links)
    refine ⟨sentence, tree.trans (tree_chainForm _ links), ?_⟩
    intro rest separated
    rw [tokens]
    exact tokenize_chain _ links separated
  | succ negations ih =>
    obtain ⟨below, rfl⟩ : ∃ below, levels = below + 1 := ⟨levels - 1, by omega⟩
    obtain ⟨inner, tree, tokens⟩ := ih (Nat.le_of_succ_le_succ room)
    let sentence : Sentence (below + 1) :=
      ⟨⟨.negated ⟨"NOT", by decide⟩ (.group inner), []⟩, []⟩
    refine ⟨sentence, congrArg Expr.not tree, ?_⟩
    intro rest separated
    have written : Phrase.tokens sentence = "NOT" :: "(" :: (Phrase.tokens inner ++ [")"]) := by
      change "NOT" :: ("(" :: (Phrase.tokens inner ++ [")"])) ++ [] ++ [] = _
      rw [List.append_nil, List.append_nil]
    rw [tokenize_negatedText_succ, tokens _ (separated_append (.inr rfl) rest),
      tokenize_parenthesis (.inr rfl), written]
    simp

theorem compile_negatedText (nested : negations ≤ maxNesting) (chained : links < maxHeight) :
    compile (negatedText negations links) = .ok (negatedTree negations links) := by
  obtain ⟨sentence, tree, tokens⟩ := exists_negated_sentence links nested
  have whole := tokens "" separated_nil
  rw [String.append_empty, tokenize_empty, List.append_nil] at whole
  rw [← tree]
  refine compile_sentence sentence whole.symm ?_
  rw [tree]
  exact joinedWithin_negatedTree chained

end Chains

/-- A compiled tree keeps the limit exactly when its negations at the root and what stands under
them keep it together. What stands under them always does, and so does a tree without negations at
its root; no tree is higher than the limit and the greatest depth of groups together. -/
theorem compiled_height_le_iff (text : String) (tree : Expr) (compiled : compile text = .ok tree) :
    (tree.height ≤ maxHeight ↔ tree.negations ≤ maxHeight - tree.core.height) ∧
      tree.core.height ≤ maxHeight ∧ tree.height ≤ maxHeight + maxNesting := by
  obtain ⟨sentence, -, rfl, within⟩ := sentence_of_compile compiled
  have parts := (Phrase.tree sentence).height_eq_negations_add
  have core := within.core_height_le (by decide)
  refine ⟨?_, core, sentence_height_le maxNesting sentence within⟩
  rw [parts]
  omega

theorem greatest_height_reached :
    compile (negatedText 256 1023) = .ok (negatedTree 256 1023) ∧
      (negatedTree 256 1023).height = maxHeight + maxNesting ∧
      (negatedTree 256 1023).core.height ≤ maxHeight := by
  have compiled : compile (negatedText 256 1023) = .ok (negatedTree 256 1023) :=
    compile_negatedText (by decide) (by decide)
  refine ⟨compiled, ?_, (compiled_height_le_iff _ _ compiled).2.1⟩
  rw [height_negatedTree]
  rfl

theorem negated_chain_above_limit :
    compile (negatedText 1 1023) = .ok (negatedTree 1 1023) ∧
      ¬ (negatedTree 1 1023).height ≤ maxHeight := by
  refine ⟨compile_negatedText (by decide) (by decide), ?_⟩
  rw [height_negatedTree]
  decide

end Verdict
