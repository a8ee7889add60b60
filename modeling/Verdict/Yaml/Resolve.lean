import Verdict.Yaml.Document
import Verdict.Yaml.Typing

/-!
Reading the nodes of a document through its aliases: as texts, lists, and mappings with fixed names.
-/

namespace Verdict.Yaml

structure Resolver where
  anchored : List (Nat × Node)
  budget : Nat

abbrev Resolve := StateT Resolver Option

def aliasesPerMark : Nat := 100

def Document.resolve {α : Type} (document : Document) (read : Node → Resolve α) : Option α :=
  StateT.run' (read document.root)
    { anchored := document.anchored, budget := aliasesPerMark * document.root.size }

namespace Node

/-- The node that an alias stands for; any other node stands for itself. Of the anchored nodes with
the number of the alias it is the last one to begin, wherever the alias is written. -/
def follow : Node → Resolve Node
  | .alias number => do
    let resolver ← get
    guard (resolver.budget ≠ 0)
    set { resolver with budget := resolver.budget - 1 }
    resolver.anchored.lookup number
  | node => return node

def text (node : Node) : Resolve String := do
  match ← node.follow with
  | .scalar _ _ text => return text
  | _ => failure

def optionalText (node : Node) : Resolve (Option String) := do
  match ← node.follow with
  | .scalar none plain text => return if plain && Typing.isNull text then none else some text
  | .scalar (some tag) plain text =>
    if plain && tag == Tag.core "null" then
      guard (Typing.nullWords.contains text)
      return none
    else
      return some text
  | _ => failure

def items (node : Node) : Resolve (List Node) := do
  match ← node.follow with
  | .sequence items => return items
  | .scalar _ true "" => return []
  | _ => failure

def fields (known : List String) :
    List (String × Node) → List (Node × Node) → Resolve (List (String × Node))
  | found, [] => return found
  | found, (key, node) :: rest => do
    let name ← key.text
    if !known.contains name then
      fields known found rest
    else
      guard (found.lookup name).isNone
      fields known ((name, node) :: found) rest

def record (known : List String) (node : Node) : Resolve (List (String × Node)) := do
  match ← node.follow with
  | .mapping members => fields known [] members
  | _ => failure

end Node

end Verdict.Yaml
