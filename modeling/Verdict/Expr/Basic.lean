import Verdict.Bindings
import Verdict.Comparison
import Verdict.RuleError

/-!
Rule expressions as trees: their atoms, canonical text, height, names and value.
-/

namespace Verdict

inductive Atom where
  | compare (name : String) (operator : Operator) (literal : Value)
  | absent (name : String)
  | present (name : String)
  | bare (name : String)
deriving BEq, Inhabited

namespace Atom

def name : Atom → String
  | .compare name _ _ => name
  | .absent name => name
  | .present name => name
  | .bare name => name

def literalText : Value → String
  | .string text => "'" ++ text ++ "'"
  | value => value.text

def render : Atom → String
  | .compare name operator literal =>
    name ++ " " ++ operator.symbol ++ " " ++ literalText literal
  | .absent name => name ++ " NULL"
  | .present name => name ++ " NOT NULL"
  | .bare name => name

def evaluate (bindings : Bindings) : Atom → Except RuleError Bool
  | .compare name operator literal =>
    .ok (compareValues (bindings.get? name) operator (some literal))
  | .absent name => .ok (!bindings.contains name)
  | .present name => .ok (bindings.contains name)
  | .bare name =>
    match bindings.truth? name with
    | some truth => .ok truth
    | none => .error (.bareBoolean name)

end Atom

inductive Expr where
  | atom (leaf : Atom)
  | not (inner : Expr)
  | and (left right : Expr)
  | or (left right : Expr)
deriving BEq, Inhabited

namespace Expr

def render : Expr → String
  | .atom leaf => leaf.render
  | .not inner => "NOT " ++ inner.render
  | .and left right => "(" ++ left.render ++ " AND " ++ right.render ++ ")"
  | .or left right => "(" ++ left.render ++ " OR " ++ right.render ++ ")"

def height : Expr → Nat
  | .atom _ => 1
  | .not inner => inner.height + 1
  | .and left right => max left.height right.height + 1
  | .or left right => max left.height right.height + 1

def atoms : Expr → List Atom
  | .atom leaf => [leaf]
  | .not inner => inner.atoms
  | .and left right => left.atoms ++ right.atoms
  | .or left right => left.atoms ++ right.atoms

def names (expr : Expr) : List String :=
  expr.atoms.foldl
    (fun names leaf => if names.contains leaf.name then names else names ++ [leaf.name]) []

/-- Both operands are always evaluated, so a fault on the right counts whatever the left says. -/
def evaluate (bindings : Bindings) : Expr → Except RuleError Bool
  | .atom leaf => leaf.evaluate bindings
  | .not inner => do
    let value ← inner.evaluate bindings
    return !value
  | .and left right => do
    let leftValue ← left.evaluate bindings
    let rightValue ← right.evaluate bindings
    return leftValue && rightValue
  | .or left right => do
    let leftValue ← left.evaluate bindings
    let rightValue ← right.evaluate bindings
    return leftValue || rightValue

end Expr

end Verdict
