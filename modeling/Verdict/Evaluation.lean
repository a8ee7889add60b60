import Verdict.Grammar

/-!
The two uses of a rule text: its value under bindings in one pass, and its tree.
-/

namespace Verdict

/-- Reads an expression as its value. A bare variable without a truth value fails at once, before
the rest of the text is looked at. -/
def Reading.value (bindings : Bindings) : Reading Bool where
  atom := Atom.evaluate bindings
  negate value := !value
  both left right := .ok (left && right)
  either left right := .ok (left || right)

def evaluate (bindings : Bindings) (text : String) : Except RuleError Bool :=
  (Reading.value bindings).read text

def maxHeight : Nat := 1024

structure Subtree where
  tree : Expr
  height : Nat

namespace Subtree

def join (build : Expr → Expr → Expr) (left right : Subtree) : Except RuleError Subtree :=
  let height := max left.height right.height + 1
  if height > maxHeight then
    .error (.nestingTooDeep maxHeight)
  else
    .ok { tree := build left.tree right.tree, height }

end Subtree

def Reading.tree : Reading Subtree where
  atom leaf := .ok { tree := .atom leaf, height := 1 }
  negate inner := { tree := .not inner.tree, height := inner.height + 1 }
  both := Subtree.join .and
  either := Subtree.join .or

def compile (text : String) : Except RuleError Expr := do
  let subtree ← Reading.tree.read text
  return subtree.tree

end Verdict
