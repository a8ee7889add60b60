import Mathlib.Data.List.Forall2
import Verdict.Command.Run
import Verdict.Http.Basic
import Verdict.Proofs.Expr.Meaning
import Verdict.Proofs.RuleSet.Answer

/-! The response of the service and the check command show the outcomes of a rule set in their
order, and how they end tells its first match. -/

namespace Verdict

theorem Expr.evaluate_eq_error {expr : Expr} {bindings : Bindings} {fault : RuleError}
    (failed : expr.evaluate bindings = .error fault) : ∃ name, fault = .bareBoolean name := by
  obtain ⟨_, name, _, -, -, -, same⟩ := fault?_eq_some_iff.mp (evaluate_eq_error_iff.mp failed)
  exact ⟨name, same⟩

theorem RuleSet.firstMatch_eq_error {set : RuleSet} {bindings : Bindings} {fault : RuleError}
    (failed : set.firstMatch bindings = .error fault) : ∃ name, fault = .bareBoolean name := by
  rw [← matched_evaluate, matched_eq_error_iff, evaluate, reaches_map_iff] at failed
  obtain ⟨-, rule, -, -, -, failed⟩ := failed
  exact Expr.evaluate_eq_error failed

namespace RuleError

theorem head?_append (first second : String) (given : first.toList ≠ []) :
    (first ++ second).toList.head? = first.toList.head? := by
  rw [String.toList_append, List.head?_append_of_ne_nil _ given]

theorem message_bareBoolean (name : String) : (bareBoolean name).message =
    "Boolean variable '" ++ (name ++ "' used without comparison") :=
  String.append_assoc

theorem eq_of_message_eq {name : String} {fault : RuleError}
    (same : fault.message = (bareBoolean name).message) : fault = .bareBoolean name := by
  have first : fault.message.toList.head? = some 'B' := by
    rw [same, message_bareBoolean, head?_append _ _ (by decide)]
    decide
  cases fault with
  | bareBoolean other =>
    rw [message_bareBoolean, message_bareBoolean, String.append_right_inj,
      String.append_left_inj] at same
    rw [same]
  | unexpectedEnd => exact absurd first (by decide)
  | expectedToken | unknownOperator | trailingToken | nestingTooDeep =>
    unfold message at first
    simp only [String.append_assoc] at first
    rw [head?_append _ _ (by decide)] at first
    exact absurd first (by decide)

end RuleError

namespace RuleSet

inductive Outcome.HasEntry (outcome : Outcome) : Json → Prop
  | result {truth : Bool} (said : outcome.verdict = .ok truth) :
    HasEntry outcome (.object [("rule", .string outcome.rule), ("result", .boolean truth)])
  | fault {fault : RuleError} (said : outcome.verdict = .error fault) :
    HasEntry outcome (.object [("rule", .string outcome.rule), ("error", .string fault.message),
      ("kind", .string fault.kind.name)])

inductive Outcome.HasLine (outcome : Outcome) : String → Prop
  | result {truth : Bool} (said : outcome.verdict = .ok truth) :
    HasLine outcome ("  " ++ outcome.rule ++ ": " ++ if truth then "true" else "false")
  | fault {fault : RuleError} (said : outcome.verdict = .error fault) :
    HasLine outcome ("  " ++ outcome.rule ++ ": error: " ++ fault.message)

theorem Outcome.hasEntry_outcomeJson (outcome : Outcome) :
    outcome.HasEntry (Http.outcomeJson outcome) := by
  unfold Http.outcomeJson
  cases said : outcome.verdict with
  | ok truth => exact .result said
  | error fault => exact .fault said

theorem Outcome.hasLine_outcomeLine (outcome : Outcome) :
    outcome.HasLine (Command.outcomeLine outcome) := by
  unfold Command.outcomeLine
  cases said : outcome.verdict with
  | ok truth => exact .result said
  | error fault => exact .fault said

theorem forall₂_map {α β : Type} {shows : α → β → Prop} {view : α → β}
    (shown : ∀ entry, shows entry (view entry)) (entries : List α) :
    List.Forall₂ shows entries (entries.map view) :=
  List.forall₂_map_right_iff.mpr (List.forall₂_same.mpr fun entry _ => shown entry)

end RuleSet

namespace Http

variable {set : RuleSet} {bindings : Bindings}

theorem matchedJson_eq_string_iff {rule : String} :
    matchedJson (set.evaluate bindings) = .string rule ↔
      set.firstMatch bindings = .ok (some rule) := by
  rw [matchedJson, RuleSet.matched_evaluate]
  cases set.firstMatch bindings with
  | error fault => simp
  | ok answer => cases answer <;> simp

theorem matchedJson_eq_null_iff :
    matchedJson (set.evaluate bindings) = .null ↔
      ∀ rule, set.firstMatch bindings ≠ .ok (some rule) := by
  rw [matchedJson, RuleSet.matched_evaluate]
  cases set.firstMatch bindings with
  | error fault => simp
  | ok answer => cases answer <;> simp

end Http

namespace Exit

def success (lines : List String) : Exit :=
  { code := 0, output := String.join (lines.map (· ++ "\n")), errors := "" }

def failure (lines : List String) (complaint : String) : Exit :=
  { code := 1
    output := String.join (lines.map (· ++ "\n"))
    errors := "Error: " ++ complaint ++ "\n" }

def ofReport (report : Report) : Exit :=
  match report.complaint with
  | none => success report.lines
  | some complaint => failure report.lines complaint

@[simp] theorem ofReport_success (lines : List String) :
    ofReport (.success lines) = success lines :=
  rfl

@[simp] theorem ofReport_failure (lines : List String) (complaint : String) :
    ofReport (.failure lines complaint) = failure lines complaint :=
  rfl

theorem ofArguments_eq {arguments : List String} {command : Command}
    (parsed : Command.ofArguments? arguments = some command) (read : String → Option String) :
    ofArguments read arguments = ofReport (command.run read) := by
  simp only [ofArguments, parsed, ofReport]
  cases (command.run read).complaint <;> rfl

theorem failure_ne_success {lines others : List String} {complaint : String} :
    failure lines complaint ≠ success others := by
  intro same
  cases congrArg code same

theorem success_concat_inj {lines : List String} {first second : String} :
    success (lines ++ [first]) = success (lines ++ [second]) ↔ first = second := by
  simp only [success, Exit.mk.injEq, List.map_append, List.map_singleton, String.join_append,
    String.append_right_inj, true_and, and_true]
  simp

theorem failure_inj {lines : List String} {first second : String} :
    failure lines first = failure lines second ↔ first = second := by
  simp only [failure, Exit.mk.injEq, String.append_assoc, String.append_right_inj,
    String.append_left_inj, true_and]

def ofMatch (shown : List String) : Except RuleError (Option String) → Exit
  | .ok (some rule) => success (shown ++ ["Matched: " ++ rule])
  | .ok none => success (shown ++ ["Matched: none"])
  | .error fault => failure shown fault.message

section Match

variable {shown : List String} {answer : Except RuleError (Option String)}

theorem ofMatch_eq_named_iff {rule : String} (named : rule ≠ "none") :
    ofMatch shown answer = success (shown ++ ["Matched: " ++ rule]) ↔
      answer = .ok (some rule) := by
  cases answer with
  | error fault => simp [ofMatch, failure_ne_success]
  | ok found =>
    cases found with
    | none =>
      have split : "Matched: none" = "Matched: " ++ "none" := rfl
      rw [ofMatch, success_concat_inj, split, String.append_right_inj]
      simp [Ne.symm named]
    | some other => simp [ofMatch, success_concat_inj, String.append_right_inj]

theorem ofMatch_eq_none_iff :
    ofMatch shown answer = success (shown ++ ["Matched: none"]) ↔
      answer = .ok none ∨ answer = .ok (some "none") := by
  cases answer with
  | error fault => simp [ofMatch, failure_ne_success]
  | ok found =>
    cases found with
    | none => simp [ofMatch]
    | some other =>
      -- A rule may have the name that is written where no rule matches.
      have split : "Matched: none" = "Matched: " ++ "none" := rfl
      rw [ofMatch, success_concat_inj, split, String.append_right_inj]
      simp

theorem ofMatch_eq_failure_iff {fault : RuleError}
    (bare : ∀ other, answer = .error other → ∃ name, other = .bareBoolean name) :
    ofMatch shown answer = failure shown fault.message ↔ answer = .error fault := by
  cases answer with
  | error other =>
    obtain ⟨name, rfl⟩ := bare other rfl
    rw [ofMatch, failure_inj, Except.error.injEq]
    constructor
    · intro same
      exact (RuleError.eq_of_message_eq same.symm).symm
    · rintro rfl
      rfl
  | ok found => cases found <;> simp [ofMatch, Ne.symm failure_ne_success]

end Match

theorem ofArguments_check {read : String → Option String} {arguments : List String}
    {rules : String} {source : BindingSource} {set : RuleSet} {bindings : Bindings}
    (parsed : Command.ofArguments? arguments = some (.check rules source))
    (loaded : RuleSet.ofContent? (read rules) = .ok set)
    (bound : Command.loadBindings read source = .ok bindings) :
    ofArguments read arguments =
      ofMatch (Command.headLines set ++ (set.evaluate bindings).map Command.outcomeLine)
        (set.firstMatch bindings) := by
  rw [ofArguments_eq parsed, Command.run, loaded, bound]
  change ofReport (Command.reportCheck set bindings) = _
  rw [Command.reportCheck, RuleSet.matched_evaluate]
  cases set.firstMatch bindings with
  | error fault => rfl
  | ok answer => cases answer <;> rfl

end Exit

namespace RuleSet

/-- The response for a registered rule set and a check of the same rule set show the same outcomes
in the order of the rules. The response names the first match and is silent about a fault before it;
the check ends with the match, or fails with that fault and no match. A check does not tell a match
with a rule named `none` from no match. -/
theorem surfaces_agree {registry : Registry} {name : String} {set : RuleSet}
    (registered : registry.get? name = some set) (bindings : Bindings) :
    (set.evaluate bindings).map Outcome.rule = set.rules.map Rule.name ∧
    (∃ entries matched,
      Http.evaluateRuleSet registry name bindings = .json 200 (.object
        [("ruleset", .string name), ("results", .array entries), ("matched", matched)]) ∧
      List.Forall₂ Outcome.HasEntry (set.evaluate bindings) entries ∧
      (∀ rule, matched = .string rule ↔ set.firstMatch bindings = .ok (some rule)) ∧
      (matched = .null ↔ ∀ rule, set.firstMatch bindings ≠ .ok (some rule))) ∧
    ∀ read arguments rules source,
      Command.ofArguments? arguments = some (.check rules source) →
      RuleSet.ofContent? (read rules) = .ok set →
      Command.loadBindings read source = .ok bindings →
      ∃ lines, List.Forall₂ Outcome.HasLine (set.evaluate bindings) lines ∧
        let exit := Exit.ofArguments read arguments
        let shown := Command.headLines set ++ lines
        (∀ rule, rule ≠ "none" →
          (exit = .success (shown ++ ["Matched: " ++ rule]) ↔
            set.firstMatch bindings = .ok (some rule))) ∧
        (exit = .success (shown ++ ["Matched: none"]) ↔
          set.firstMatch bindings = .ok none ∨ set.firstMatch bindings = .ok (some "none")) ∧
        ∀ fault, exit = .failure shown fault.message ↔ set.firstMatch bindings = .error fault := by
  refine ⟨?_, ?_, ?_⟩
  · rw [evaluate, List.map_map]
    rfl
  · refine ⟨_, _, ?_, forall₂_map Outcome.hasEntry_outcomeJson _,
      fun rule => Http.matchedJson_eq_string_iff, Http.matchedJson_eq_null_iff⟩
    rw [Http.evaluateRuleSet, registered]
  · intro read arguments rules source parsed loaded bound
    refine ⟨_, forall₂_map Outcome.hasLine_outcomeLine _, ?_⟩
    rw [Exit.ofArguments_check parsed loaded bound]
    refine ⟨fun rule named => Exit.ofMatch_eq_named_iff named, Exit.ofMatch_eq_none_iff,
      fun fault => Exit.ofMatch_eq_failure_iff ?_⟩
    intro other failed
    exact firstMatch_eq_error failed

theorem ofContent?_eq_ok {file : String} {definition : Definition} {set : RuleSet}
    (written : (Yaml.Document.ofText? file).bind (·.resolve Definition.ofNode) = some definition)
    (compiled : compile definition = .ok set) : RuleSet.ofContent? (some file) = .ok set := by
  rw [RuleSet.ofContent?, Definition.ofYaml?, written]
  exact compiled

theorem fault_blocks_match :
    let file := "name: access\nrules:\n- name: owner\n  when: A\n- name: public\n  when: B NULL\n"
    ∃ set, RuleSet.ofContent? (some file) = .ok set ∧
      (∃ entries, Http.evaluateRuleSet (Registry.empty.register set) "access" Bindings.empty =
        .json 200 (.object
          [("ruleset", .string "access"), ("results", .array entries), ("matched", .null)])) ∧
      ∃ lines, Exit.ofArguments (fun _ => some file) ["check", "--rules=access.yaml"] =
        .failure (Command.headLines set ++ lines) (RuleError.bareBoolean "A").message := by
  intro file
  have owner : Verdict.compile "A" = .ok (.atom (.bare "A")) :=
    compile_leaf ⟨"A", by decide, .bare⟩ (by decide) (by decide +kernel)
  have everyone : Verdict.compile "B NULL" = .ok (.atom (.absent "B")) :=
    compile_leaf ⟨"B", by decide, .absent ⟨"NULL", by decide⟩⟩ (by decide) (by decide +kernel)
  let rules : List Rule := [
    { name := "owner", description := none, source := "A", expr := .atom (.bare "A") },
    { name := "public", description := none, source := "B NULL", expr := .atom (.absent "B") }]
  have exprs : ∀ rule ∈ rules, Verdict.compile rule.source = .ok rule.expr :=
    List.forall_mem_cons.mpr ⟨owner, List.forall_mem_singleton.mpr everyone⟩
  let set : RuleSet := { name := "access", description := "", rules }
  let definition : Definition :=
    { name := "access", description := "", rules := rules.map Rule.written }
  have compiled : compile definition = .ok set :=
    compile_eq_ok_iff.mpr ⟨rfl, rfl, rfl, exprs, by decide⟩
  have written : (Yaml.Document.ofText? file).bind (·.resolve Definition.ofNode) =
      some definition := by
    decide +kernel
  have loaded : RuleSet.ofContent? (some file) = .ok set := ofContent?_eq_ok written compiled
  have registered : (Registry.empty.register set).get? "access" = some set := by
    simp [Registry.get?, Registry.register, set]
  have failed : set.firstMatch Bindings.empty = .error (.bareBoolean "A") := by
    simp [firstMatch, firstMatch.search, set, rules, Expr.evaluate, Atom.evaluate,
      Bindings.truth?, Bindings.get?_empty, bind, Except.bind]
  obtain ⟨-, ⟨entries, matched, response, -, -, silent⟩, check⟩ :=
    surfaces_agree registered Bindings.empty
  have null := silent.mpr (by simp [failed])
  obtain ⟨lines, -, -, -, ended⟩ := check (fun _ => some file) ["check", "--rules=access.yaml"]
    "access.yaml" { file := none, arguments := [] } (by decide) loaded rfl
  exact ⟨set, loaded, ⟨entries, null ▸ response⟩, lines, (ended _).mpr failed⟩

/-- A rule is matched, and the check ends as if none were. -/
theorem rule_named_none_matched :
    let file := "name: r\nrules:\n- name: none\n  when: A NULL\n"
    ∃ set, RuleSet.ofContent? (some file) = .ok set ∧
      set.firstMatch Bindings.empty = .ok (some "none") ∧
      ∃ lines, List.Forall₂ Outcome.HasLine (set.evaluate Bindings.empty) lines ∧
        Exit.ofArguments (fun _ => some file) ["check", "--rules=r.yaml"] =
          .success (Command.headLines set ++ lines ++ ["Matched: none"]) := by
  intro file
  have only : Verdict.compile "A NULL" = .ok (.atom (.absent "A")) :=
    compile_leaf ⟨"A", by decide, .absent ⟨"NULL", by decide⟩⟩ (by decide) (by decide +kernel)
  let rule : Rule :=
    { name := "none", description := none, source := "A NULL", expr := .atom (.absent "A") }
  let set : RuleSet := { name := "r", description := "", rules := [rule] }
  let definition : Definition := { name := "r", description := "", rules := [rule.written] }
  have compiled : compile definition = .ok set :=
    compile_eq_ok_iff.mpr ⟨rfl, rfl, rfl, List.forall_mem_singleton.mpr only, by decide⟩
  have written : (Yaml.Document.ofText? file).bind (·.resolve Definition.ofNode) =
      some definition := by
    decide +kernel
  have loaded : RuleSet.ofContent? (some file) = .ok set := ofContent?_eq_ok written compiled
  have matched : set.firstMatch Bindings.empty = .ok (some "none") := by
    simp [firstMatch, firstMatch.search, set, rule, Expr.evaluate, Atom.evaluate,
      Bindings.contains_eq_isSome_get?, Bindings.get?_empty, bind, Except.bind]
  have parsed : Command.ofArguments? ["check", "--rules=r.yaml"] =
      some (.check "r.yaml" { file := none, arguments := [] }) := by decide
  refine ⟨set, loaded, matched, _, forall₂_map Outcome.hasLine_outcomeLine _, ?_⟩
  rw [Exit.ofArguments_check parsed loaded rfl, matched]
  rfl

end RuleSet

end Verdict
