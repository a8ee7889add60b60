import Verdict.Proofs.Evaluation.Agreement
import Verdict.RuleSet.Basic

/-! What a compiled rule set is and what it answers. The outcomes of its rules, the first match and
the texts of its rules all give the same answer. -/

namespace Verdict

def Rule.written (rule : Rule) : Rule.Definition :=
  { name := rule.name, description := rule.description, source := rule.source }

namespace RuleSet

theorem compileRules_cons_eq_ok_iff {earlier : List String} {definition : Rule.Definition}
    {rest : List Rule.Definition} {rules : List Rule} :
    compileRules earlier (definition :: rest) = .ok rules ↔
      definition.name ∉ earlier ∧ ∃ expr further,
        Verdict.compile definition.source = .ok expr ∧
        compileRules (definition.name :: earlier) rest = .ok further ∧
        rules = { definition with expr } :: further := by
  rw [compileRules]
  constructor
  · intro found
    by_cases repeated : definition.name ∈ earlier
    · rw [if_pos (List.contains_iff_mem.mpr repeated)] at found
      cases found
    · rw [if_neg fun seen => repeated (List.contains_iff_mem.mp seen)] at found
      cases compiled : Verdict.compile definition.source with
      | error cause =>
        rw [compiled] at found
        cases found
      | ok expr =>
        rw [compiled] at found
        obtain ⟨further, ran, same⟩ := Fallible.bind_eq_ok_iff.mp found
        exact ⟨repeated, expr, further, rfl, ran, (Except.ok.inj same).symm⟩
  · rintro ⟨fresh, expr, further, compiled, ran, rfl⟩
    rw [if_neg fun seen => fresh (List.contains_iff_mem.mp seen), compiled]
    exact Fallible.bind_eq_ok_iff.mpr ⟨further, ran, rfl⟩

theorem nodup_cons_unseen_iff {name : String} {names earlier : List String} :
    ((name :: names).Nodup ∧ ∀ other ∈ name :: names, other ∉ earlier) ↔
      name ∉ earlier ∧ names.Nodup ∧ ∀ other ∈ names, other ∉ name :: earlier := by
  rw [List.nodup_cons, List.forall_mem_cons]
  simp only [List.mem_cons, not_or]
  constructor
  · rintro ⟨⟨single, distinct⟩, fresh, unseen⟩
    refine ⟨fresh, distinct, fun other member => ⟨?_, unseen other member⟩⟩
    rintro rfl
    exact single member
  · rintro ⟨fresh, distinct, unseen⟩
    exact ⟨⟨fun member => (unseen name member).1 rfl, distinct⟩, fresh,
      fun other member => (unseen other member).2⟩

theorem compileRules_eq_ok_iff {earlier : List String} {definitions : List Rule.Definition}
    {rules : List Rule} :
    compileRules earlier definitions = .ok rules ↔
      rules.map Rule.written = definitions ∧
      (∀ rule ∈ rules, Verdict.compile rule.source = .ok rule.expr) ∧
      (rules.map Rule.name).Nodup ∧ ∀ name ∈ rules.map Rule.name, name ∉ earlier := by
  -- The names seen before grow with every rule.
  induction definitions generalizing earlier rules with
  | nil =>
    rw [compileRules, List.map_eq_nil_iff]
    constructor
    · intro found
      cases found
      simp
    · rintro ⟨rfl, -⟩
      rfl
  | cons definition rest ih =>
    rw [compileRules_cons_eq_ok_iff]
    constructor
    · rintro ⟨fresh, expr, further, compiled, found, rfl⟩
      obtain ⟨rfl, exprs, names⟩ := ih.mp found
      exact ⟨rfl, List.forall_mem_cons.mpr ⟨compiled, exprs⟩,
        nodup_cons_unseen_iff.mpr ⟨fresh, names⟩⟩
    · rintro ⟨written, exprs, names⟩
      obtain ⟨rule, further, rfl, rfl, rfl⟩ := List.map_eq_cons_iff.mp written
      obtain ⟨compiled, exprs⟩ := List.forall_mem_cons.mp exprs
      obtain ⟨fresh, names⟩ := nodup_cons_unseen_iff.mp names
      exact ⟨fresh, rule.expr, further, compiled, ih.mpr ⟨rfl, exprs, names⟩, rfl⟩

theorem compile_eq_ok_iff {definition : Definition} {set : RuleSet} :
    compile definition = .ok set ↔
      set.name = definition.name ∧ set.description = definition.description ∧
      set.rules.map Rule.written = definition.rules ∧
      (∀ rule ∈ set.rules, Verdict.compile rule.source = .ok rule.expr) ∧
      (set.rules.map Rule.name).Nodup := by
  rw [compile, Fallible.bind_eq_ok_iff]
  constructor
  · rintro ⟨rules, found, same⟩
    cases same
    obtain ⟨written, exprs, distinct, -⟩ := compileRules_eq_ok_iff.mp found
    exact ⟨rfl, rfl, written, exprs, distinct⟩
  · obtain ⟨name, description, rules⟩ := set
    rintro ⟨rfl, rfl, written, exprs, distinct⟩
    have unseen : ∀ name ∈ rules.map Rule.name, name ∉ [] := fun _ _ => List.not_mem_nil
    exact ⟨rules, compileRules_eq_ok_iff.mpr ⟨written, exprs, distinct, unseen⟩, rfl⟩

def Reaches {α : Type} (passed chosen : α → Prop) (entries : List α) : Prop :=
  ∃ before entry after, entries = before ++ entry :: after ∧
    (∀ earlier ∈ before, passed earlier) ∧ chosen entry

theorem reaches_map_iff {α β : Type} {passed chosen : β → Prop} {view : α → β}
    {entries : List α} :
    Reaches passed chosen (entries.map view) ↔
      Reaches (fun entry => passed (view entry)) (fun entry => chosen (view entry)) entries := by
  constructor
  · rintro ⟨before, entry, after, split, quiet, found⟩
    obtain ⟨front, back, rfl, rfl, rest⟩ := List.map_eq_append_iff.mp split
    obtain ⟨source, tail, rfl, rfl, rfl⟩ := List.map_eq_cons_iff.mp rest
    exact ⟨front, source, tail, rfl, List.forall_mem_map.mp quiet, found⟩
  · rintro ⟨before, entry, after, rfl, quiet, found⟩
    exact ⟨before.map view, view entry, after.map view, by rw [List.map_append, List.map_cons],
      List.forall_mem_map.mpr quiet, found⟩

theorem all_or_reaches {α : Type} (passed : α → Prop) (entries : List α) :
    (∀ entry ∈ entries, passed entry) ∨ Reaches passed (fun entry => ¬ passed entry) entries := by
  induction entries with
  | nil => exact .inl fun _ impossible => absurd impossible List.not_mem_nil
  | cons first rest ih =>
    by_cases quiet : passed first
    · rcases ih with all | ⟨before, entry, after, rfl, all, found⟩
      · exact .inl (List.forall_mem_cons.mpr ⟨quiet, all⟩)
      · exact .inr ⟨first :: before, entry, after, rfl, List.forall_mem_cons.mpr ⟨quiet, all⟩,
          found⟩
    · exact .inr ⟨[], first, rest, rfl, fun _ impossible => absurd impossible List.not_mem_nil,
        quiet⟩

def Outcome.IsFalse (outcome : Outcome) : Prop :=
  outcome.verdict = .ok false

section Matched

variable {outcomes before after : List Outcome} {outcome : Outcome}

theorem matched_append (quiet : ∀ earlier ∈ before, earlier.IsFalse) :
    matched (before ++ outcomes) = matched outcomes := by
  induction before with
  | nil => rfl
  | cons first before ih =>
    obtain ⟨firstFalse, quiet⟩ := List.forall_mem_cons.mp quiet
    rw [List.cons_append, matched, show first.verdict = .ok false from firstFalse]
    exact ih quiet

theorem matched_decisive (quiet : ∀ earlier ∈ before, earlier.IsFalse)
    (decisive : ¬ outcome.IsFalse) :
    matched (before ++ outcome :: after) = outcome.verdict.map fun _ => some outcome.rule := by
  rw [matched_append quiet, matched]
  cases said : outcome.verdict with
  | error fault => rfl
  | ok truth =>
    cases truth with
    | true => rfl
    | false => exact absurd said decisive

theorem matched_eq_none_iff :
    matched outcomes = .ok none ↔ ∀ outcome ∈ outcomes, outcome.IsFalse := by
  constructor
  · intro unmatched
    rcases all_or_reaches Outcome.IsFalse outcomes with
      all | ⟨before, outcome, after, rfl, quiet, decisive⟩
    · exact all
    · rw [matched_decisive quiet decisive] at unmatched
      cases said : outcome.verdict with
      | error fault => rw [said] at unmatched; cases unmatched
      | ok truth => rw [said] at unmatched; cases unmatched
  · intro quiet
    rw [← List.append_nil outcomes, matched_append quiet, matched]

theorem matched_eq_iff {answer : Except RuleError (Option String)} (decided : answer ≠ .ok none) :
    matched outcomes = answer ↔
      Reaches Outcome.IsFalse
        (fun outcome => ¬ outcome.IsFalse ∧
          outcome.verdict.map (fun _ => some outcome.rule) = answer) outcomes := by
  constructor
  · rintro rfl
    rcases all_or_reaches Outcome.IsFalse outcomes with
      all | ⟨before, outcome, after, rfl, quiet, decisive⟩
    · exact absurd (matched_eq_none_iff.mpr all) decided
    · exact ⟨before, outcome, after, rfl, quiet, decisive,
        (matched_decisive quiet decisive).symm⟩
  · rintro ⟨before, outcome, after, rfl, quiet, decisive, same⟩
    exact (matched_decisive quiet decisive).trans same

theorem matched_eq_some_iff {name : String} :
    matched outcomes = .ok (some name) ↔
      Reaches Outcome.IsFalse (fun outcome => outcome.rule = name ∧ outcome.verdict = .ok true)
        outcomes := by
  have chosen (outcome : Outcome) :
      (¬ outcome.IsFalse ∧ outcome.verdict.map (fun _ => some outcome.rule) = .ok (some name)) ↔
        outcome.rule = name ∧ outcome.verdict = .ok true := by
    cases said : outcome.verdict with
    | error fault => simp [Except.map]
    | ok truth => cases truth <;> simp [Outcome.IsFalse, said, Except.map]
  rw [matched_eq_iff (by simp)]
  simp only [chosen]

theorem matched_eq_error_iff {fault : RuleError} :
    matched outcomes = .error fault ↔
      Reaches Outcome.IsFalse (fun outcome => outcome.verdict = .error fault) outcomes := by
  have chosen (outcome : Outcome) :
      (¬ outcome.IsFalse ∧ outcome.verdict.map (fun _ => some outcome.rule) = .error fault) ↔
        outcome.verdict = .error fault := by
    cases said : outcome.verdict with
    | error cause => simp [Outcome.IsFalse, said, Except.map]
    | ok truth => simp [Except.map]
  rw [matched_eq_iff (by simp)]
  simp only [chosen]

end Matched

/-- What the text of a rule says about a table. -/
def sourceOutcome (bindings : Bindings) (rule : Rule) : Outcome :=
  { rule := rule.name, verdict := Verdict.evaluate bindings rule.source }

theorem evaluate_eq_map_sourceOutcome {set : RuleSet}
    (exprs : ∀ rule ∈ set.rules, Verdict.compile rule.source = .ok rule.expr)
    (bindings : Bindings) : set.evaluate bindings = set.rules.map (sourceOutcome bindings) := by
  apply List.map_congr_left
  intro rule member
  rw [sourceOutcome, evaluate_of_compile (exprs rule member)]

theorem matched_evaluate (set : RuleSet) (bindings : Bindings) :
    matched (set.evaluate bindings) = set.firstMatch bindings := by
  unfold evaluate firstMatch
  induction set.rules with
  | nil => rfl
  | cons rule rest ih =>
    rw [firstMatch.search, List.map_cons, matched]
    cases rule.expr.evaluate bindings with
    | error fault => rfl
    | ok truth =>
      cases truth with
      | true => rfl
      | false => exact ih

/-- The outcomes of a compiled rule set are those of the texts of its rules, in the order in which
they are written; its first match is the answer of the outcomes, and the first rule that is not
false decides it. No two rules have one name. -/
theorem answers_agree {definition : Definition} {set : RuleSet}
    (compiled : compile definition = .ok set) (bindings : Bindings) :
    set.rules.map Rule.written = definition.rules ∧
    set.evaluate bindings = set.rules.map (fun rule =>
      { rule := rule.name, verdict := Verdict.evaluate bindings rule.source }) ∧
    matched (set.evaluate bindings) = set.firstMatch bindings ∧
    (∀ name, set.firstMatch bindings = .ok (some name) ↔
      ∃ before rule after, set.rules = before ++ rule :: after ∧
        (∀ earlier ∈ before, Verdict.evaluate bindings earlier.source = .ok false) ∧
        rule.name = name ∧ Verdict.evaluate bindings rule.source = .ok true) ∧
    (∀ fault, set.firstMatch bindings = .error fault ↔
      ∃ before rule after, set.rules = before ++ rule :: after ∧
        (∀ earlier ∈ before, Verdict.evaluate bindings earlier.source = .ok false) ∧
        Verdict.evaluate bindings rule.source = .error fault) ∧
    (set.firstMatch bindings = .ok none ↔
      ∀ rule ∈ set.rules, Verdict.evaluate bindings rule.source = .ok false) ∧
    (set.rules.map Rule.name).Nodup := by
  obtain ⟨-, -, written, exprs, distinct⟩ := compile_eq_ok_iff.mp compiled
  have outcomes := evaluate_eq_map_sourceOutcome exprs bindings
  refine ⟨written, outcomes, matched_evaluate set bindings, ?_, ?_, ?_, distinct⟩
  · intro name
    rw [← matched_evaluate, outcomes, matched_eq_some_iff, reaches_map_iff]
    exact Iff.rfl
  · intro fault
    rw [← matched_evaluate, outcomes, matched_eq_error_iff, reaches_map_iff]
    exact Iff.rfl
  · rw [← matched_evaluate, outcomes, matched_eq_none_iff, List.forall_mem_map]
    exact Iff.rfl

theorem second_rule_matched :
    ∃ set, compile {
        name := "access"
        description := ""
        rules := [{ name := "unknown", description := none, source := "A NULL" },
          { name := "granted", description := none, source := "A" }] } = .ok set ∧
      set.firstMatch (Bindings.empty.insert "A" (.boolean true)) = .ok (some "granted") := by
  have unknown : Verdict.compile "A NULL" = .ok (.atom (.absent "A")) :=
    compile_leaf ⟨"A", by decide, .absent ⟨"NULL", by decide⟩⟩ (by decide) (by decide +kernel)
  have granted : Verdict.compile "A" = .ok (.atom (.bare "A")) :=
    compile_leaf ⟨"A", by decide, .bare⟩ (by decide) (by decide +kernel)
  let rules : List Rule := [
    { name := "unknown", description := none, source := "A NULL", expr := .atom (.absent "A") },
    { name := "granted", description := none, source := "A", expr := .atom (.bare "A") }]
  have exprs : ∀ rule ∈ rules, Verdict.compile rule.source = .ok rule.expr :=
    List.forall_mem_cons.mpr ⟨unknown, List.forall_mem_singleton.mpr granted⟩
  let set : RuleSet := { name := "access", description := "", rules }
  let definition : Definition :=
    { name := "access", description := "", rules := rules.map Rule.written }
  have compiled : compile definition = .ok set :=
    compile_eq_ok_iff.mpr ⟨rfl, rfl, rfl, exprs, by decide⟩
  refine ⟨set, compiled, ((answers_agree compiled _).2.2.2.1 "granted").mpr ?_⟩
  refine ⟨rules.take 1, rules[1], [], rfl, ?_, rfl, ?_⟩
  · refine List.forall_mem_singleton.mpr ?_
    refine (evaluate_of_compile unknown _).trans ?_
    simp [Expr.evaluate, Atom.evaluate, Bindings.contains_eq_isSome_get?, Bindings.get?_insert]
  · refine (evaluate_of_compile granted _).trans ?_
    simp [Expr.evaluate, Atom.evaluate, Bindings.truth?, Bindings.get?_insert, Value.truth?]

end RuleSet

end Verdict
