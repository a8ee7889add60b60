import Verdict.RuleSet.Basic
import Verdict.Yaml.Resolve

/-!
Rule sets written in YAML. A set and a rule are mappings with fixed names, of which each occurs at
most once.
-/

namespace Verdict

open Yaml

namespace Rule.Definition

def ofNode (node : Node) : Resolve Definition := do
  let fields ← node.record ["name", "description", "when"]
  let name ← (← fields.lookup "name").text
  let description ← match fields.lookup "description" with
    | some node => node.optionalText
    | none => pure none
  let source ← (← fields.lookup "when").text
  return { name, description, source }

end Rule.Definition

namespace RuleSet.Definition

def ofNode (node : Node) : Resolve Definition := do
  let fields ← node.record ["name", "description", "rules"]
  let name ← (← fields.lookup "name").text
  let description ← match fields.lookup "description" with
    | some node => node.text
    | none => pure ""
  let items ← (← fields.lookup "rules").items
  let rules ← items.mapM Rule.Definition.ofNode
  return { name, description, rules }

def ofYaml? (text : String) : Except Failure Definition :=
  match (Document.ofText? text).bind (·.resolve ofNode) with
  | some definition => .ok definition
  | none => .error .malformedYaml

end RuleSet.Definition

end Verdict
