import Verdict.Proofs.Expr.Height
import Verdict.Proofs.Expr.Recompile

/-! Trees that are built and not read. `Printable` says of any tree what its canonical text has to
keep so that compiling it gives the very same tree. -/

namespace Verdict

namespace Expr

def joints : Expr → Nat
  | .atom _ => 0
  | .not inner => inner.joints
  | .and left right => max left.joints right.joints + 1
  | .or left right => max left.joints right.joints + 1

def SingleNegations : Expr → Prop
  | .atom _ => True
  | .not inner => inner.isNot = false ∧ inner.SingleNegations
  | .and left right => left.SingleNegations ∧ right.SingleNegations
  | .or left right => left.SingleNegations ∧ right.SingleNegations

/-- A name is the word NOT only where its atom stands directly under a negation; the flag tells
whether the tree itself does. -/
def NegatedKeywords : Bool → Expr → Prop
  | negated, .atom leaf => negated = false → Text.sameFolded leaf.name "NOT" = false
  | _, .not inner => inner.NegatedKeywords true
  | _, .and left right => left.NegatedKeywords false ∧ right.NegatedKeywords false
  | _, .or left right => left.NegatedKeywords false ∧ right.NegatedKeywords false

structure Printable (tree : Expr) : Prop where
  /-- Every name is one token, and it neither opens a group nor can start a quoted run. -/
  names : ∀ leaf ∈ tree.atoms,
    tokenize leaf.name = [leaf.name] ∧ leaf.name ≠ "(" ∧ leaf.name ≠ "'"
  keywords : tree.NegatedKeywords false
  negations : tree.SingleNegations
  groups : tree.joints ≤ maxNesting
  /-- Every literal is a truth value, an integer, a finite double or a string without a quote. -/
  literals : ∀ name operator value, .compare name operator value ∈ tree.atoms → value.Restorable

variable {connective : Connective} {left right : Expr}

theorem joints_build : (connective.build left right).joints = max left.joints right.joints + 1 := by
  cases connective <;> rfl

theorem singleNegations_build :
    (connective.build left right).SingleNegations ↔
      left.SingleNegations ∧ right.SingleNegations := by
  cases connective <;> exact Iff.rfl

theorem negatedKeywords_build {negated : Bool} :
    (connective.build left right).NegatedKeywords negated ↔
      left.NegatedKeywords false ∧ right.NegatedKeywords false := by
  cases connective <;> exact Iff.rfl

theorem NegatedKeywords.wellNamed {tree : Expr} {negated : Bool}
    (keywords : tree.NegatedKeywords negated) (names : ∀ leaf ∈ tree.atoms, leaf.WellNamed) :
    tree.WellNamed negated := by
  induction tree using connectiveInduction generalizing negated with
  | atom leaf => exact ⟨names leaf List.mem_cons_self, keywords⟩
  | not inner ih => exact ih keywords names
  | joined connective left right leftIh rightIh =>
    obtain ⟨leftKeywords, rightKeywords⟩ := negatedKeywords_build.mp keywords
    rw [atoms_build, List.forall_mem_append] at names
    exact wellNamed_build.mpr ⟨leftIh leftKeywords names.1, rightIh rightKeywords names.2⟩

theorem restorable_of_joints_le {tree : Expr} {levels : Nat} {later : Bool}
    (negations : tree.SingleNegations) (groups : tree.joints ≤ levels)
    (leaves : ∀ leaf ∈ tree.atoms, ∀ later, leaf.Restorable later) :
    tree.Restorable levels later := by
  induction tree using connectiveInduction generalizing levels later with
  | atom leaf => exact leaves leaf List.mem_cons_self later
  | not inner ih => exact ⟨negations.1, ih negations.2 groups leaves⟩
  | joined connective left right leftIh rightIh =>
    obtain ⟨leftSingle, rightSingle⟩ := singleNegations_build.mp negations
    rw [joints_build] at groups
    rw [atoms_build, List.forall_mem_append] at leaves
    obtain ⟨below, rfl⟩ : ∃ below, levels = below + 1 := ⟨levels - 1, by omega⟩
    exact restorable_build.mpr ⟨below, rfl, leftIh leftSingle (by omega) leaves.1,
      rightIh rightSingle (by omega) leaves.2⟩

theorem SingleNegations.height_le {tree : Expr} (single : tree.SingleNegations) :
    tree.height + (if tree.isNot then 0 else 1) ≤ 2 * tree.joints + 2 := by
  induction tree using connectiveInduction with
  | atom leaf => exact Nat.le_refl _
  | not inner ih =>
    have below := ih single.2
    rw [single.1] at below
    exact below
  | joined connective left right leftIh rightIh =>
    obtain ⟨leftSingle, rightSingle⟩ := singleNegations_build.mp single
    have leftBound := leftIh leftSingle
    have rightBound := rightIh rightSingle
    have plain : (connective.build left right).isNot = false := by cases connective <;> rfl
    rw [plain, height_build, joints_build]
    split at leftBound <;> split at rightBound <;> simp <;> omega

theorem SingleNegations.joinedWithin {tree : Expr} {limit : Nat} (single : tree.SingleNegations)
    (room : 2 * tree.joints + 2 ≤ limit) : tree.JoinedWithin limit := by
  induction tree using connectiveInduction with
  | atom leaf => trivial
  | not inner ih => exact ih single.2 room
  | joined connective left right leftIh rightIh =>
    have bound := single.height_le
    rw [height_build] at bound
    obtain ⟨leftSingle, rightSingle⟩ := singleNegations_build.mp single
    rw [joints_build] at room bound
    exact joinedWithin_build.mpr
      ⟨leftIh leftSingle (by omega), rightIh rightSingle (by omega), by omega⟩

end Expr

/-- Printing is undone by compiling. -/
theorem compile_render_of_printable (tree : Expr) (printable : tree.Printable) :
    compile tree.render = .ok tree := by
  have names : ∀ leaf ∈ tree.atoms, leaf.WellNamed := by
    intro leaf member
    obtain ⟨alone, notOpening, -⟩ := printable.names leaf member
    have single : leaf.name ∈ tokenize leaf.name := by
      rw [alone]
      exact List.mem_singleton_self _
    exact ⟨shape_of_mem_tokenize single, notOpening⟩
  have leaves : ∀ leaf ∈ tree.atoms, ∀ later, leaf.Restorable later := by
    intro leaf member later
    refine ⟨fun lone => absurd lone (printable.names leaf member).2.2, ?_⟩
    rintro name operator value rfl
    exact printable.literals name operator value member
  have room : 2 * tree.joints + 2 ≤ maxHeight := by
    have groups := printable.groups
    have limits : 2 * maxNesting + 2 ≤ maxHeight := by decide
    omega
  exact compile_render (printable.keywords.wellNamed names) (printable.negations.joinedWithin room)
    (Expr.restorable_of_joints_le printable.negations printable.groups leaves)

theorem compile_render_keywords :
    let tree : Expr := .and (.not (.atom (.absent "NOT")))
      (.or (.atom (.compare ")" .lessOrEqual (.string "a (b"))) (.atom (.bare "AND")))
    tree.Printable ∧ tree.render = "(NOT NOT NULL AND () <= 'a (b' OR AND))" ∧
      compile tree.render = .ok tree := by
  intro tree
  have printable : tree.Printable := {
    names := by
      have negation : tokenize "NOT" = ["NOT"] := by decide +kernel
      have closing : tokenize ")" = [")"] := by decide +kernel
      have conjunction : tokenize "AND" = ["AND"] := by decide +kernel
      simp only [tree, Expr.atoms, List.cons_append, List.nil_append, List.forall_mem_cons]
      exact ⟨⟨negation, by decide⟩, ⟨closing, by decide⟩, ⟨conjunction, by decide⟩,
        fun _ impossible => absurd impossible List.not_mem_nil⟩
    keywords := by
      have closing : Text.sameFolded ")" "NOT" = false := by decide
      have conjunction : Text.sameFolded "AND" "NOT" = false := by decide
      exact ⟨fun negated => Bool.noConfusion negated, fun _ => closing, fun _ => conjunction⟩
    negations := ⟨⟨rfl, trivial⟩, trivial, trivial⟩
    groups := by decide
    literals := by
      intro name operator value member
      obtain ⟨rfl, rfl, rfl⟩ : name = ")" ∧ operator = .lessOrEqual ∧ value = .string "a (b" := by
        simpa [tree, Expr.atoms] using member
      exact (by decide : hasQuote "a (b" = false) }
  exact ⟨printable, by decide +kernel, compile_render_of_printable tree printable⟩

end Verdict
