import Verdict.Proofs.RuleSet.Surfaces

/-! The service, the evaluation command and a rule set with one rule give the same verdict on an
expression, each in a form that tells it. -/

namespace Verdict

theorem RuleError.kind_eq_of_message_eq {first second : RuleError}
    (same : first.message = second.message) : first.kind = second.kind := by
  cases first with
  | bareBoolean name => rw [eq_of_message_eq same.symm]
  | _ =>
    cases second with
    | bareBoolean name => rw [eq_of_message_eq same]
    | _ => rfl

namespace Exit

theorem success_singleton_inj {first second : String} :
    success [first] = success [second] ↔ first = second :=
  @success_concat_inj [] first second

theorem truthText_inj {first second : Bool} :
    Command.truthText first = Command.truthText second ↔ first = second := by
  cases first <;> cases second <;> decide

variable {expression : String} {bindings : Bindings}

theorem reportEvaluation_eq_success_iff {truth : Bool} :
    ofReport (Command.reportEvaluation expression bindings) =
        success [Command.truthText truth] ↔
      evaluate bindings expression = .ok truth := by
  unfold Command.reportEvaluation
  cases evaluate bindings expression with
  | ok value =>
    rw [Except.ok.injEq, ← truthText_inj]
    exact success_singleton_inj
  | error fault => exact iff_of_false failure_ne_success nofun

theorem reportEvaluation_eq_failure_iff {message : String} :
    ofReport (Command.reportEvaluation expression bindings) = failure [] message ↔
      ∃ fault, evaluate bindings expression = .error fault ∧ fault.message = message := by
  unfold Command.reportEvaluation
  cases evaluate bindings expression with
  | ok value => simpa using failure_ne_success.symm
  | error fault => simpa using failure_inj

end Exit

namespace Http

variable {expression : String} {bindings : Bindings}

theorem evaluateExpression_of_long (long : 16384 < expression.utf8ByteSize) :
    evaluateExpression { expression, bindings } = .json 413 (.object
      [("error", .string (Failure.expressionTooLong expression.utf8ByteSize 16384).message)]) :=
  if_pos long

section Short

variable (short : expression.utf8ByteSize ≤ 16384)
include short

theorem evaluateExpression_of_short :
    evaluateExpression { expression, bindings } =
      match evaluate bindings expression with
      | .ok result => .json 200 (.object [("result", .boolean result)])
      | .error fault => .json 422 (.object (errorMembers fault)) :=
  if_neg (Nat.not_lt.mpr short)

theorem evaluateExpression_eq_result_iff {truth : Bool} :
    evaluateExpression { expression, bindings } =
        .json 200 (.object [("result", .boolean truth)]) ↔
      evaluate bindings expression = .ok truth := by
  rw [evaluateExpression_of_short short]
  cases evaluate bindings expression <;> simp [Response.json]

theorem evaluateExpression_eq_fault_iff {message kind : String} :
    evaluateExpression { expression, bindings } =
        .json 422 (.object [("error", .string message), ("kind", .string kind)]) ↔
      ∃ fault, evaluate bindings expression = .error fault ∧
        fault.message = message ∧ fault.kind.name = kind := by
  rw [evaluateExpression_of_short short]
  cases evaluate bindings expression <;> simp [Response.json, errorMembers]

end Short

theorem evaluateExpression_status_iff :
    (evaluateExpression { expression, bindings }).status = 413 ↔
      16384 < expression.utf8ByteSize := by
  constructor
  · intro refused
    refine Nat.lt_of_not_le fun short => ?_
    rw [evaluateExpression_of_short short] at refused
    cases evaluated : evaluate bindings expression <;> rw [evaluated] at refused <;> cases refused
  · intro long
    rw [evaluateExpression_of_long long]
    rfl

end Http

theorem RuleSet.exists_of_compile {source : String} {tree : Expr}
    (compiled : Verdict.compile source = .ok tree) (title description : String)
    (rule : Rule.Definition) (bindings : Bindings) :
    ∃ set, RuleSet.compile
        { name := title, description, rules := [{ rule with source }] } = .ok set ∧
      set.evaluate bindings =
        [{ rule := rule.name, verdict := Verdict.evaluate bindings source }] := by
  let only : Rule := { rule with source, expr := tree }
  let set : RuleSet := { name := title, description, rules := [only] }
  have exprs : ∀ rule ∈ set.rules, Verdict.compile rule.source = .ok rule.expr :=
    List.forall_mem_singleton.mpr compiled
  refine ⟨set, compile_eq_ok_iff.mpr ⟨rfl, rfl, rfl, exprs, by simp [set]⟩, ?_⟩
  rw [evaluate_of_compile compiled]
  rfl

/-- The service answers an expression that is not too long, and the command ends, as the expression
evaluates. Both show a result as it is and a fault by its message, the service also by its kind; a
rule with that expression has the same result or fault. -/
theorem expression_surfaces_agree (bindings : Bindings) (expression : String) :
    let response := Http.evaluateExpression { expression, bindings }
    let exit := Exit.ofReport (Command.reportEvaluation expression bindings)
    (response.status = 413 ↔ 16384 < expression.utf8ByteSize) ∧
    (expression.utf8ByteSize ≤ 16384 →
      (∀ truth, response = .json 200 (.object [("result", .boolean truth)]) ↔
        exit = .success [if truth then "true" else "false"]) ∧
      ∀ message kind,
        response = .json 422 (.object [("error", .string message), ("kind", .string kind)]) ↔
          exit = .failure [] message ∧
            ∃ fault : RuleError, fault.message = message ∧ fault.kind.name = kind) ∧
    (∀ read arguments source,
      Command.ofArguments? arguments = some (.evaluate expression source) →
      Command.loadBindings read source = .ok bindings →
      Exit.ofArguments read arguments = exit) ∧
    ∀ tree, compile expression = .ok tree → ∀ title description (rule : Rule.Definition),
      ∃ set verdict, RuleSet.compile
          { name := title, description, rules := [{ rule with source := expression }] } = .ok set ∧
        set.evaluate bindings = [{ rule := rule.name, verdict }] ∧
        (∀ truth, verdict = .ok truth ↔
          exit = .success [if truth then "true" else "false"]) ∧
        ∀ fault, verdict = .error fault ↔ exit = .failure [] fault.message := by
  intro response exit
  refine ⟨Http.evaluateExpression_status_iff, ?_, ?_, ?_⟩
  · intro short
    refine ⟨fun truth => ?_, fun message kind => ?_⟩
    · rw [Http.evaluateExpression_eq_result_iff short]
      exact Exit.reportEvaluation_eq_success_iff.symm
    · rw [Http.evaluateExpression_eq_fault_iff short, Exit.reportEvaluation_eq_failure_iff]
      constructor
      · rintro ⟨fault, failed, said, sort⟩
        exact ⟨⟨fault, failed, said⟩, fault, said, sort⟩
      · rintro ⟨⟨fault, failed, said⟩, other, alike, sort⟩
        rw [RuleError.kind_eq_of_message_eq (alike.trans said.symm)] at sort
        exact ⟨fault, failed, said, sort⟩
  · intro read arguments source parsed loaded
    rw [Exit.ofArguments_eq parsed, Command.run, loaded]
    rfl
  · intro tree compiled title description rule
    obtain ⟨set, built, outcomes⟩ :=
      RuleSet.exists_of_compile compiled title description rule bindings
    refine ⟨set, _, built, outcomes, fun truth => Exit.reportEvaluation_eq_success_iff.symm, ?_⟩
    intro fault
    rw [Exit.reportEvaluation_eq_failure_iff]
    constructor
    · intro failed
      exact ⟨fault, failed, rfl⟩
    · rintro ⟨other, failed, said⟩
      -- What a tree fails with can be told from its message.
      obtain ⟨name, rfl⟩ : ∃ name, other = .bareBoolean name :=
        Expr.evaluate_eq_error ((evaluate_of_compile compiled bindings).symm.trans failed)
      rw [failed, RuleError.eq_of_message_eq said.symm]

theorem unbound_variable_reported :
    Exit.ofArguments (fun _ => none) ["eval", "--expression=A"] =
        .failure [] "Boolean variable 'A' used without comparison" ∧
      Http.evaluateExpression { expression := "A", bindings := Bindings.empty } =
        .json 422 (.object [
          ("error", .string "Boolean variable 'A' used without comparison"),
          ("kind", .string "semantic")]) := by
  have compiled : compile "A" = .ok (.atom (.bare "A")) :=
    compile_leaf ⟨"A", by decide, .bare⟩ (by decide) (by decide +kernel)
  have failed : evaluate Bindings.empty "A" = .error (.bareBoolean "A") := by
    rw [evaluate_of_compile compiled]
    simp [Expr.evaluate, Atom.evaluate, Bindings.truth?]
  obtain ⟨-, answers, ends, -⟩ := expression_surfaces_agree Bindings.empty "A"
  have exit := ends (fun _ => none) ["eval", "--expression=A"] { file := none, arguments := [] }
    (by decide) rfl
  have reported := Exit.reportEvaluation_eq_failure_iff.mpr ⟨_, failed, rfl⟩
  exact ⟨exit.trans reported,
    ((answers (by decide)).2 _ _).mpr ⟨reported, .bareBoolean "A", by decide, by decide⟩⟩

end Verdict
