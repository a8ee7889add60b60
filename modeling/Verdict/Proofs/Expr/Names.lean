import Mathlib.Data.List.Basic
import Verdict.Proofs.Evaluation.Agreement

/-! The names that an expression reads. They are listed by their first occurrence, and a verdict
depends on nothing else: tables that agree on them give the same value or the same fault. -/

namespace Verdict

open Phrase (Negation Sentence)

structure FirstOccurrences (occurrences names : List String) : Prop where
  mem_iff : ∀ name, name ∈ names ↔ name ∈ occurrences
  ordered : names.Pairwise fun first second =>
    occurrences.idxOf first < occurrences.idxOf second

namespace FirstOccurrences

variable {occurrences names : List String} {name : String}

theorem nil : FirstOccurrences [] [] :=
  ⟨fun _ => Iff.rfl, List.Pairwise.nil⟩

theorem nodup (listed : FirstOccurrences occurrences names) : names.Nodup := by
  refine listed.ordered.imp ?_
  rintro first second earlier rfl
  exact Nat.lt_irrefl _ earlier

theorem ordered_append (listed : FirstOccurrences occurrences names) (later : List String) :
    names.Pairwise fun first second =>
      (occurrences ++ later).idxOf first < (occurrences ++ later).idxOf second := by
  refine listed.ordered.imp_of_mem ?_
  intro first second firstListed secondListed earlier
  rw [List.idxOf_append_of_mem ((listed.mem_iff first).mp firstListed),
    List.idxOf_append_of_mem ((listed.mem_iff second).mp secondListed)]
  exact earlier

theorem repeated (listed : FirstOccurrences occurrences names) (seen : name ∈ names) :
    FirstOccurrences (occurrences ++ [name]) names := by
  refine ⟨fun other => ?_, listed.ordered_append [name]⟩
  rw [listed.mem_iff, List.mem_append, List.mem_singleton]
  constructor
  · exact .inl
  · rintro (earlier | rfl)
    · exact earlier
    · exact (listed.mem_iff other).mp seen

theorem fresh (listed : FirstOccurrences occurrences names) (unseen : name ∉ names) :
    FirstOccurrences (occurrences ++ [name]) (names ++ [name]) := by
  have absent : name ∉ occurrences := fun occurs => unseen ((listed.mem_iff name).mpr occurs)
  refine ⟨fun other => ?_, List.pairwise_append.mpr
    ⟨listed.ordered_append [name], List.pairwise_singleton _ _, ?_⟩⟩
  · rw [List.mem_append, List.mem_append, listed.mem_iff]
  · intro first earlier second last
    obtain rfl := List.mem_singleton.mp last
    have occurs := (listed.mem_iff first).mp earlier
    have bound := List.idxOf_lt_length_of_mem occurs
    rw [List.idxOf_append_of_mem occurs, List.idxOf_append_of_notMem absent]
    omega

theorem foldl (listed : FirstOccurrences occurrences names) (leaves : List Atom) :
    FirstOccurrences (occurrences ++ leaves.map Atom.name)
      (leaves.foldl
        (fun names leaf => if names.contains leaf.name then names else names ++ [leaf.name])
        names) := by
  induction leaves generalizing occurrences names with
  | nil => simpa using listed
  | cons leaf leaves ih =>
    rw [List.map_cons, List.append_cons, List.foldl_cons]
    apply ih
    by_cases seen : leaf.name ∈ names
    · rw [if_pos (List.contains_iff_mem.mpr seen)]
      exact listed.repeated seen
    · rw [if_neg fun found => seen (List.contains_iff_mem.mp found)]
      exact listed.fresh seen

end FirstOccurrences

theorem Expr.names_listed (tree : Expr) :
    FirstOccurrences (tree.atoms.map Atom.name) tree.names :=
  FirstOccurrences.nil.foldl tree.atoms

theorem Expr.mem_names_iff {tree : Expr} {name : String} :
    name ∈ tree.names ↔ ∃ leaf ∈ tree.atoms, leaf.name = name := by
  rw [tree.names_listed.mem_iff, List.mem_map]

section Agreement

variable {first second : Bindings}

theorem Atom.evaluate_congr {leaf : Atom} (same : first.get? leaf.name = second.get? leaf.name) :
    leaf.evaluate first = leaf.evaluate second := by
  cases leaf with
  | compare name operator literal =>
    rw [evaluate, evaluate, show first.get? name = second.get? name from same]
  | absent name | present name =>
    rw [evaluate, evaluate, Bindings.contains_eq_isSome_get?, Bindings.contains_eq_isSome_get?,
      show first.get? name = second.get? name from same]
  | bare name =>
    rw [evaluate, evaluate, Bindings.truth?, Bindings.truth?,
      show first.get? name = second.get? name from same]

theorem Expr.evaluate_congr {tree : Expr}
    (agree : ∀ leaf ∈ tree.atoms, first.get? leaf.name = second.get? leaf.name) :
    tree.evaluate first = tree.evaluate second := by
  rw [← fold_value, ← fold_value]
  induction tree using Expr.connectiveInduction with
  | atom leaf => exact leaf.evaluate_congr (agree leaf List.mem_cons_self)
  | not inner ih =>
    rw [Reading.fold, Reading.fold, ih agree]
    rfl
  | joined connective left right leftIh rightIh =>
    rw [Expr.atoms_build, List.forall_mem_append] at agree
    rw [Grammar.fold_build, Grammar.fold_build, leftIh agree.1, rightIh agree.2]
    cases connective <;> rfl

end Agreement

/-- The names of a compiled text are those of its atoms, each once and in the order of their first
occurrence. Tables that agree on them give the tree and the text the same verdict. -/
theorem verdict_depends_on_names {text : String} {tree : Expr} (compiled : compile text = .ok tree) :
    tree.names.Nodup ∧
    (∀ name, name ∈ tree.names ↔ ∃ leaf ∈ tree.atoms, leaf.name = name) ∧
    tree.names.Pairwise (fun earlier later =>
      (tree.atoms.map Atom.name).idxOf earlier < (tree.atoms.map Atom.name).idxOf later) ∧
    ∀ first second : Bindings, (∀ name ∈ tree.names, first.get? name = second.get? name) →
      tree.evaluate first = tree.evaluate second ∧ evaluate first text = evaluate second text := by
  refine ⟨tree.names_listed.nodup, fun name => tree.mem_names_iff, tree.names_listed.ordered, ?_⟩
  intro first second agree
  have same : tree.evaluate first = tree.evaluate second := by
    apply Expr.evaluate_congr
    intro leaf member
    exact agree leaf.name (Expr.mem_names_iff.mpr ⟨leaf, member, rfl⟩)
  refine ⟨same, ?_⟩
  rw [evaluate_of_compile compiled, evaluate_of_compile compiled, same]

theorem unread_name_ignored :
    ∃ tree, compile "B OR A AND B" = .ok tree ∧ tree.names = ["B", "A"] ∧
      evaluate (.ofList [("B", .boolean true), ("C", .integer 3)]) "B OR A AND B" =
        evaluate (.ofList [("B", .boolean true)]) "B OR A AND B" ∧
      evaluate (.ofList [("B", .boolean true)]) "B OR A AND B" = .error (.bareBoolean "A") := by
  have written : tokenize "B OR A AND B" = ["B", "OR", "A", "AND", "B"] := by decide +kernel
  let a : Negation (Sentence 255) := .plain (.leaf ⟨"A", by decide, .bare⟩) rfl
  let b : Negation (Sentence 255) := .plain (.leaf ⟨"B", by decide, .bare⟩) rfl
  let sentence : Sentence maxNesting :=
    ⟨⟨b, []⟩, [(⟨"OR", by decide⟩, ⟨a, [(⟨"AND", by decide⟩, b)]⟩)]⟩
  have within : (Phrase.tree sentence).JoinedWithin maxHeight :=
    ⟨trivial, ⟨trivial, trivial, by decide⟩, by decide⟩
  let tree : Expr := .or (.atom (.bare "B")) (.and (.atom (.bare "A")) (.atom (.bare "B")))
  have compiled : compile "B OR A AND B" = .ok tree :=
    compile_sentence sentence written.symm within
  refine ⟨tree, compiled, by decide, ?_, ?_⟩
  · refine ((verdict_depends_on_names compiled).2.2.2 _ _ ?_).2
    intro name listed
    have known : name = "B" ∨ name = "A" := by simpa using (show name ∈ ["B", "A"] from listed)
    rcases known with rfl | rfl <;>
      simp [Bindings.ofList, Bindings.insertAll, Bindings.get?_insert]
  · rw [evaluate_of_compile compiled]
    simp [tree, Expr.evaluate, Atom.evaluate, Bindings.truth?, Bindings.ofList, Bindings.insertAll,
      Bindings.get?_insert, Value.truth?]
    rfl

end Verdict
