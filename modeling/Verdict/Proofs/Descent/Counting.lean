import Verdict.Proofs.Descent.Procedure
import Verdict.Proofs.Evaluation.Acceptance

/-!
The height that is counted beside a tree is the height of the tree, in every call of the descent,
and a join is refused by the height that the joined tree would have.
-/

namespace Verdict

variable {α β : Type}

structure Reading.Maps (image : α → β) (first : Reading α) (second : Reading β) : Prop where
  atom : ∀ leaf, second.atom leaf = image <$> first.atom leaf
  negate : ∀ value, second.negate (image value) = image (first.negate value)
  combine : ∀ (connective : Connective) left right,
    connective.combine second (image left) (image right) =
      image <$> connective.combine first left right

namespace Grammar

def Maps (image : α → β) (first : List String → Except RuleError (α × List String))
    (second : List String → Except RuleError (β × List String)) : Prop :=
  ∀ tokens, second tokens = Prod.map image id <$> first tokens

def MapsInside (image : α → β) : Option (Parser α) → Option (Parser β) → Prop
  | none, none => True
  | some first, some second => Maps image first.run second.run
  | _, _ => False

variable {image : α → β} {first : Reading α} {second : Reading β}

section Descent

variable {inside : Option (Parser α)} {otherInside : Option (Parser β)}

theorem leaf_maps (maps : first.Maps image second) : Maps image (leaf first) (leaf second) := by
  intro tokens
  simp only [leaf, maps.atom, map_bind, bind_map_left]
  rfl

theorem operand_maps (maps : first.Maps image second)
    (insides : MapsInside image inside otherInside) :
    Maps image (operand first inside) (operand second otherInside) := by
  intro tokens
  unfold operand
  cases takeWord "(" tokens with
  | none => exact leaf_maps maps tokens
  | some rest =>
    cases inside with
    | none =>
      cases otherInside with
      | none => rfl
      | some other => exact insides.elim
    | some parser =>
      cases otherInside with
      | none => exact insides.elim
      | some other =>
        simp only [insides rest, map_bind, bind_map_left]
        rfl

theorem negation_maps (maps : first.Maps image second)
    (insides : MapsInside image inside otherInside) :
    Maps image (negation first inside) (negation second otherInside) := by
  intro tokens
  unfold negation
  cases takeWord "NOT" tokens with
  | none => exact operand_maps maps insides tokens
  | some rest =>
    simp only [operand_maps maps insides rest, map_bind, bind_map_left, Prod.map_fst, Prod.map_snd,
      id, maps.negate]
    rfl

variable {link : Parser α} {otherLink : Parser β}

theorem chainRest_maps (maps : first.Maps image second) (connective : Connective)
    (links : Maps image link.run otherLink.run) (left : α) :
    Maps image (chainRest connective.word (connective.combine first) link left)
      (chainRest connective.word (connective.combine second) otherLink (image left)) := by
  intro tokens
  -- Every link leaves fewer tokens.
  induction size : tokens.length using Nat.strongRecOn generalizing left tokens with
  | ind size ih =>
    cases taken : takeWord connective.word tokens with
    | none =>
      rw [chainRest_none taken, chainRest_none taken]
      rfl
    | some afterWord =>
      have shorter := takeWord_shortens taken
      rw [chainRest_some taken, chainRest_some taken, links afterWord, bind_map_left, map_bind]
      cases ran : link.run afterWord with
      | error fault => rfl
      | ok read =>
        obtain ⟨right, rest⟩ := read
        have less := link.shortens ran
        change connective.combine second (image left) (image right) >>= _ =
          Prod.map image id <$> (connective.combine first left right >>= _)
        rw [maps.combine, bind_map_left, map_bind]
        exact bind_congr fun value => ih rest.length (by omega) value rest rfl

theorem chain_maps (maps : first.Maps image second) (connective : Connective)
    (links : Maps image link.run otherLink.run) :
    Maps image (chain connective.word (connective.combine first) link).run
      (chain connective.word (connective.combine second) otherLink).run := by
  intro tokens
  simp only [chain, links tokens, map_bind, bind_map_left]
  exact bind_congr fun read => chainRest_maps maps connective links read.1 read.2

theorem conjunction_maps (maps : first.Maps image second)
    (insides : MapsInside image inside otherInside) :
    Maps image (conjunction first inside).run (conjunction second otherInside).run :=
  let link : Parser α := { run := negation first inside, shortens := negation_shortens }
  let otherLink : Parser β := { run := negation second otherInside, shortens := negation_shortens }
  have links : Maps image link.run otherLink.run := negation_maps maps insides
  chain_maps maps .and links

theorem disjunction_maps (maps : first.Maps image second)
    (insides : MapsInside image inside otherInside) :
    Maps image (disjunction first inside).run (disjunction second otherInside).run :=
  chain_maps maps .or (conjunction_maps maps insides)

end Descent

theorem inside_maps (maps : first.Maps image second) (levels : Nat) :
    MapsInside image (inside first levels) (inside second levels) := by
  induction levels with
  | zero => trivial
  | succ levels ih =>
    change Maps image (expression first levels).run (expression second levels).run
    rw [expression_eq_disjunction, expression_eq_disjunction]
    exact disjunction_maps maps ih

end Grammar

theorem Procedure.run_maps {image : α → β} {first : Reading α} {second : Reading β}
    (maps : first.Maps image second) (levels : Nat) (procedure : Procedure) :
    Grammar.Maps image (procedure.run first levels) (procedure.run second levels) := by
  have insides := Grammar.inside_maps maps levels
  cases procedure with
  | disjunction => exact Grammar.disjunction_maps maps insides
  | conjunction => exact Grammar.conjunction_maps maps insides
  | negation => exact Grammar.negation_maps maps insides
  | operand => exact Grammar.operand_maps maps insides
  | atom => exact Grammar.leaf_maps maps

/-- A tree without a count. Its conjunctions and disjunctions are not too high as they stand. -/
structure LimitedTree where
  tree : Expr
  within : tree.JoinedWithin maxHeight

namespace LimitedTree

def join (connective : Connective) (left right : LimitedTree) : Except RuleError LimitedTree :=
  if fits : (connective.build left.tree right.tree).height ≤ maxHeight then
    .ok {
      tree := connective.build left.tree right.tree
      within := by
        rw [Expr.height_build] at fits
        exact Expr.joinedWithin_build.mpr ⟨left.within, right.within, fits⟩ }
  else
    .error (.nestingTooDeep maxHeight)

def measured (limited : LimitedTree) : Subtree where
  tree := limited.tree
  height := limited.tree.height

end LimitedTree

def Reading.limitedTree : Reading LimitedTree where
  atom leaf := .ok { tree := .atom leaf, within := trivial }
  negate inner := { tree := .not inner.tree, within := inner.within }
  both := LimitedTree.join .and
  either := LimitedTree.join .or

theorem combine_tree_of_exact (connective : Connective) (left right : Subtree)
    (leftExact : left.height = left.tree.height) (rightExact : right.height = right.tree.height) :
    connective.combine Reading.tree left right =
      if (connective.build left.tree right.tree).height ≤ maxHeight then
        .ok {
          tree := connective.build left.tree right.tree
          height := (connective.build left.tree right.tree).height }
      else
        .error (.nestingTooDeep maxHeight) := by
  rw [combine_tree, leftExact, rightExact, Expr.height_build]

theorem Reading.limitedTree_maps :
    Reading.limitedTree.Maps LimitedTree.measured Reading.tree where
  atom leaf := rfl
  negate value := rfl
  combine connective left right := by
    have same : connective.combine Reading.limitedTree left right =
        LimitedTree.join connective left right := by
      cases connective <;> rfl
    rw [same, combine_tree_of_exact connective left.measured right.measured rfl rfl,
      LimitedTree.join]
    by_cases fits : (connective.build left.tree right.tree).height ≤ maxHeight
    · rw [dif_pos fits]
      exact if_pos fits
    · rw [dif_neg fits]
      exact if_neg fits

/-- The count beside a tree is its height, and no conjunction or disjunction in it is too high. A
join is refused exactly if the joined tree were too high, so the calls of the descent succeed and
fail as they do when every join measures its tree and nothing is counted. -/
theorem counted_height_exact (procedure : Procedure) (levels : Nat) (tokens : List String) :
    (∀ subtree rest, procedure.run Reading.tree levels tokens = .ok (subtree, rest) →
      subtree.height = subtree.tree.height ∧ subtree.tree.JoinedWithin maxHeight) ∧
    (∀ (connective : Connective) (left right : Subtree),
      left.height = left.tree.height → right.height = right.tree.height →
      (maxHeight < (connective.build left.tree right.tree).height ↔
        connective.combine Reading.tree left right = .error (.nestingTooDeep maxHeight)) ∧
      ∀ joined, connective.combine Reading.tree left right = .ok joined →
        joined.tree = connective.build left.tree right.tree ∧
          joined.height = joined.tree.height) ∧
    procedure.run Reading.tree levels tokens =
      Prod.map LimitedTree.measured id <$> procedure.run Reading.limitedTree levels tokens := by
  have same := procedure.run_maps Reading.limitedTree_maps levels tokens
  refine ⟨?_, ?_, same⟩
  · intro subtree rest found
    rw [same] at found
    cases ran : procedure.run Reading.limitedTree levels tokens with
    | error fault => rw [ran] at found; cases found
    | ok read =>
      rw [ran] at found
      cases found
      exact ⟨rfl, read.1.within⟩
  · intro connective left right leftExact rightExact
    rw [combine_tree_of_exact connective left right leftExact rightExact]
    by_cases fits : (connective.build left.tree right.tree).height ≤ maxHeight
    · rw [if_pos fits]
      refine ⟨⟨fun high => absurd fits (Nat.not_le.mpr high), fun failed => by cases failed⟩, ?_⟩
      rintro joined ⟨⟩
      exact ⟨rfl, rfl⟩
    · rw [if_neg fits]
      refine ⟨⟨fun _ => rfl, fun _ => Nat.not_le.mp fits⟩, ?_⟩
      intro joined failed
      cases failed

end Verdict
