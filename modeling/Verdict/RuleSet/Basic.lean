import Verdict.Evaluation
import Verdict.Failure

/-!
Rule sets: named rules in a fixed order, as they are written and as they are compiled.
-/

namespace Verdict

namespace Rule

structure Definition where
  name : String
  description : Option String
  source : String
deriving DecidableEq, Repr, Inhabited

end Rule

structure Rule where
  name : String
  description : Option String
  source : String
  expr : Expr

namespace RuleSet

structure Definition where
  name : String
  description : String
  rules : List Rule.Definition
deriving DecidableEq, Repr, Inhabited

structure Outcome where
  rule : String
  verdict : Except RuleError Bool

end RuleSet

structure RuleSet where
  name : String
  description : String
  rules : List Rule

namespace RuleSet

/-- Compiles rules in their order. A name that an earlier rule has is refused before the expression
under it is looked at. -/
def compileRules (earlier : List String) : List Rule.Definition → Except Failure (List Rule)
  | [] => .ok []
  | definition :: rest =>
    if earlier.contains definition.name then
      .error (.duplicateRule definition.name)
    else
      match Verdict.compile definition.source with
      | .error cause => .error (.invalidRule definition.name cause)
      | .ok expr => do
        let rules ← compileRules (definition.name :: earlier) rest
        .ok ({ definition with expr } :: rules)

def compile (definition : Definition) : Except Failure RuleSet := do
  let rules ← compileRules [] definition.rules
  .ok { definition with rules }

def evaluate (set : RuleSet) (bindings : Bindings) : List Outcome :=
  set.rules.map fun rule => { rule := rule.name, verdict := rule.expr.evaluate bindings }

/-- The first outcome that is not false decides: a true one by its name, a fault by itself. -/
def matched : List Outcome → Except RuleError (Option String)
  | [] => .ok none
  | outcome :: rest =>
    match outcome.verdict with
    | .ok true => .ok (some outcome.rule)
    | .ok false => matched rest
    | .error fault => .error fault

def firstMatch (set : RuleSet) (bindings : Bindings) : Except RuleError (Option String) :=
  search set.rules
where
  search : List Rule → Except RuleError (Option String)
    | [] => .ok none
    | rule :: rest => do
      if ← rule.expr.evaluate bindings then
        .ok (some rule.name)
      else
        search rest

end RuleSet

end Verdict
