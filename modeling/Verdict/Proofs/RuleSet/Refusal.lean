import Verdict.Proofs.RuleSet.Answer

/-! Which rule sets compile, and which rule is named where one does not. The rules are looked at in
their order, so the first one that cannot stay is named, whatever the later ones are. -/

namespace Verdict.RuleSet

variable {earlier : List String} {definition : Rule.Definition}
  {definitions rest before after : List Rule.Definition} {failure : Failure}

structure Addable (earlier : List String) (definitions : List Rule.Definition) : Prop where
  compiles : ∀ rule ∈ definitions, ∃ expr, Verdict.compile rule.source = .ok expr
  distinct : (definitions.map Rule.Definition.name).Nodup
  unseen : ∀ name ∈ definitions.map Rule.Definition.name, name ∉ earlier

/-- How a rule is refused after rules with these names. A repeated name is reported whether or not
the text compiles. -/
def Refused (earlier : List String) (definition : Rule.Definition) (failure : Failure) : Prop :=
  (definition.name ∈ earlier ∧ failure = .duplicateRule definition.name) ∨
    (definition.name ∉ earlier ∧ ∃ cause, Verdict.compile definition.source = .error cause ∧
      failure = .invalidRule definition.name cause)

theorem addable_nil (earlier : List String) : Addable earlier [] where
  compiles := by simp
  distinct := List.nodup_nil
  unseen := by simp

theorem addable_cons_iff :
    Addable earlier (definition :: rest) ↔
      definition.name ∉ earlier ∧ (∃ expr, Verdict.compile definition.source = .ok expr) ∧
        Addable (definition.name :: earlier) rest := by
  constructor
  · rintro ⟨compiles, distinct, unseen⟩
    obtain ⟨compiled, compiles⟩ := List.forall_mem_cons.mp compiles
    obtain ⟨fresh, distinct, unseen⟩ := nodup_cons_unseen_iff.mp ⟨distinct, unseen⟩
    exact ⟨fresh, compiled, compiles, distinct, unseen⟩
  · rintro ⟨fresh, compiled, compiles, distinct, unseen⟩
    obtain ⟨distinct, unseen⟩ := nodup_cons_unseen_iff.mpr ⟨fresh, distinct, unseen⟩
    exact ⟨List.forall_mem_cons.mpr ⟨compiled, compiles⟩, distinct, unseen⟩

theorem refused_congr {left right : List String}
    (same : definition.name ∈ left ↔ definition.name ∈ right) :
    Refused left definition failure ↔ Refused right definition failure := by
  rw [Refused, same, Refused]

theorem compileRules_cons_eq_error_iff :
    compileRules earlier (definition :: rest) = .error failure ↔
      Refused earlier definition failure ∨
        (definition.name ∉ earlier ∧ (∃ expr, Verdict.compile definition.source = .ok expr) ∧
          compileRules (definition.name :: earlier) rest = .error failure) := by
  rw [compileRules, Refused]
  by_cases repeated : definition.name ∈ earlier
  · rw [if_pos (List.contains_iff_mem.mpr repeated)]
    simp [repeated, eq_comm]
  · rw [if_neg fun seen => repeated (List.contains_iff_mem.mp seen)]
    cases compiled : Verdict.compile definition.source with
    | error cause => simp [repeated, eq_comm]
    | ok expr =>
      simp only
      rw [Fallible.bind_eq_error_iff]
      simp [repeated]

theorem compileRules_eq_error_iff :
    compileRules earlier definitions = .error failure ↔
      ∃ before rule after, definitions = before ++ rule :: after ∧ Addable earlier before ∧
        Refused (before.map Rule.Definition.name ++ earlier) rule failure := by
  induction definitions generalizing earlier with
  | nil => simp [compileRules]
  | cons definition rest ih =>
    rw [compileRules_cons_eq_error_iff]
    constructor
    · rintro (refused | ⟨fresh, compiled, failed⟩)
      · exact ⟨[], definition, rest, rfl, addable_nil earlier, refused⟩
      · obtain ⟨before, rule, after, rfl, addable, refused⟩ := ih.mp failed
        refine ⟨definition :: before, rule, after, rfl,
          addable_cons_iff.mpr ⟨fresh, compiled, addable⟩, (refused_congr ?_).mp refused⟩
        simp [or_left_comm]
    · rintro ⟨before, rule, after, split, addable, refused⟩
      cases before with
      | nil =>
        obtain ⟨rfl, rfl⟩ := List.cons.inj split
        exact .inl refused
      | cons first before =>
        obtain ⟨rfl, rfl⟩ := List.cons.inj split
        obtain ⟨fresh, compiled, addable⟩ := addable_cons_iff.mp addable
        refine .inr ⟨fresh, compiled, ih.mpr ⟨before, rule, after, rfl, addable,
          (refused_congr ?_).mpr refused⟩⟩
        simp [or_left_comm]

theorem exists_compileRules_iff :
    (∃ rules, compileRules earlier definitions = .ok rules) ↔ Addable earlier definitions := by
  induction definitions generalizing earlier with
  | nil => simp [compileRules, addable_nil]
  | cons definition rest ih =>
    rw [addable_cons_iff, ← ih]
    constructor
    · rintro ⟨rules, found⟩
      obtain ⟨fresh, expr, further, compiled, ran, -⟩ := compileRules_cons_eq_ok_iff.mp found
      exact ⟨fresh, ⟨expr, compiled⟩, further, ran⟩
    · rintro ⟨fresh, ⟨expr, compiled⟩, further, ran⟩
      exact ⟨_, compileRules_cons_eq_ok_iff.mpr ⟨fresh, expr, further, compiled, ran, rfl⟩⟩

theorem addable_nil_iff :
    Addable [] definitions ↔
      (∀ rule ∈ definitions, ∃ expr, Verdict.compile rule.source = .ok expr) ∧
        (definitions.map Rule.Definition.name).Nodup := by
  constructor
  · rintro ⟨compiles, distinct, -⟩
    exact ⟨compiles, distinct⟩
  · rintro ⟨compiles, distinct⟩
    exact ⟨compiles, distinct, fun _ _ => List.not_mem_nil⟩

theorem exists_compile_iff {set : Definition} :
    (∃ compiled, compile set = .ok compiled) ↔ Addable [] set.rules := by
  rw [← exists_compileRules_iff]
  simp only [compile, Fallible.bind_eq_ok_iff]
  constructor
  · rintro ⟨compiled, rules, ran, -⟩
    exact ⟨rules, ran⟩
  · rintro ⟨rules, ran⟩
    exact ⟨{ set with rules }, rules, ran, rfl⟩

theorem compile_fails_iff {set : Definition} :
    compile set = .error failure ↔ compileRules [] set.rules = .error failure := by
  rw [compile, Fallible.bind_eq_error_iff]
  constructor
  · rintro (failed | ⟨rules, -, found⟩)
    · exact failed
    · cases found
  · exact .inl

/-- A rule set compiles if and only if the texts of its rules do and their names are all different,
and then it is what was written with the tree of every text. Otherwise the failure names the first
rule that has the name of an earlier one or a text that does not compile, and it is the name that is
reported where both are so. -/
theorem compile_names_first_offender (definition : Definition) :
    ((∃ set, compile definition = .ok set) ↔
      (∀ rule ∈ definition.rules, ∃ expr, Verdict.compile rule.source = .ok expr) ∧
        (definition.rules.map Rule.Definition.name).Nodup) ∧
    (∀ set, compile definition = .ok set ↔
      set.name = definition.name ∧ set.description = definition.description ∧
        set.rules.map Rule.written = definition.rules ∧
        (∀ rule ∈ set.rules, Verdict.compile rule.source = .ok rule.expr) ∧
        (set.rules.map Rule.name).Nodup) ∧
    ∀ failure, compile definition = .error failure ↔
      ∃ before rule after, definition.rules = before ++ rule :: after ∧
        ((∀ earlier ∈ before, ∃ expr, Verdict.compile earlier.source = .ok expr) ∧
          (before.map Rule.Definition.name).Nodup) ∧
        ((rule.name ∈ before.map Rule.Definition.name ∧ failure = .duplicateRule rule.name) ∨
          (rule.name ∉ before.map Rule.Definition.name ∧
            ∃ cause, Verdict.compile rule.source = .error cause ∧
              failure = .invalidRule rule.name cause)) := by
  refine ⟨exists_compile_iff.trans addable_nil_iff, fun set => compile_eq_ok_iff, ?_⟩
  intro failure
  rw [compile_fails_iff, compileRules_eq_error_iff]
  simp only [addable_nil_iff, List.append_nil, Refused]

theorem taken_name_reported :
    compile {
        name := "access"
        description := ""
        rules := [{ name := "known", description := none, source := "A NOT NULL" },
          { name := "known", description := none, source := "" },
          { name := "granted", description := none, source := ")" }] } =
      .error (.duplicateRule "known") := by
  have first : Verdict.compile "A NOT NULL" = .ok (.atom (.present "A")) :=
    compile_leaf ⟨"A", by decide, .present ⟨"NOT", by decide⟩ ⟨"NULL", by decide⟩⟩ (by decide)
      (by decide +kernel)
  refine ((compile_names_first_offender _).2.2 _).mpr ⟨[_], _, _, rfl, ⟨?_, by simp⟩, .inl ?_⟩
  · exact List.forall_mem_singleton.mpr ⟨_, first⟩
  · exact ⟨by simp, rfl⟩

end Verdict.RuleSet
