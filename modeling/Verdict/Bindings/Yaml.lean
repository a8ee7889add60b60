import Verdict.Bindings.Json
import Verdict.Yaml.Resolve

/-!
Tables of bindings written as YAML mappings.
-/

namespace Verdict.Bindings

open Yaml

def valueOfNode (node : Node) : Resolve (Option Value) := do
  match ← node.follow with
  | .scalar tag plain text => Typing.binding? tag plain text
  | _ => failure

def enterMembers (bindings : Bindings) : List (Node × Node) → Resolve Bindings
  | [] => return bindings
  | (key, node) :: rest => do
    let name ← key.text
    let value ← valueOfNode node
    (bindings.enter name value).enterMembers rest

def ofNode : Node → Resolve Bindings
  | .mapping members => empty.enterMembers members
  | .scalar _ true "" => return empty
  | _ => failure

def ofYaml? (text : String) : Except Failure Bindings :=
  match (Document.ofText? text).bind (·.resolve ofNode) with
  | some bindings => .ok bindings
  | none => .error .malformedYaml

end Verdict.Bindings
