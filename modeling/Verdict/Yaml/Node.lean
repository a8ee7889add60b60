import Verdict.Yaml.Tag

/-!
Nodes of a YAML document.
-/

namespace Verdict.Yaml

inductive Node where
  | scalar (tag : Option Tag) (plain : Bool) (text : String)
  | sequence (items : List Node)
  | mapping (members : List (Node × Node))
  | alias (number : Nat)
deriving Inhabited

namespace Node

def empty : Node :=
  .scalar none true ""

mutual

/-- How many marks it takes to write a node: a collection has one at each end. -/
def size : Node → Nat
  | .scalar .. => 1
  | .sequence items => 2 + itemsSize items
  | .mapping members => 2 + membersSize members
  | .alias _ => 1

def itemsSize : List Node → Nat
  | [] => 0
  | item :: rest => item.size + itemsSize rest

def membersSize : List (Node × Node) → Nat
  | [] => 0
  | (key, value) :: rest => key.size + value.size + membersSize rest

end

end Node

end Verdict.Yaml
