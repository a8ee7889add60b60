import Verdict.Grammar

/-!
The grammar of rule expressions as data. A phrase is a derivation: it has the tokens that it is
written with and the tree that it stands for. A `Sentence levels` is an expression in which groups
are nested at most so many levels deep.
-/

namespace Verdict

inductive Connective where
  | and
  | or
deriving DecidableEq

namespace Connective

def word : Connective → String
  | .and => "AND"
  | .or => "OR"

def build : Connective → Expr → Expr → Expr
  | .and => .and
  | .or => .or

def combine {α : Type} (reading : Reading α) : Connective → α → α → Except RuleError α
  | .and => reading.both
  | .or => reading.either

end Connective

theorem Expr.connectiveInduction {motive : Expr → Prop} (atom : ∀ leaf, motive (.atom leaf))
    (not : ∀ inner, motive inner → motive (.not inner))
    (joined : ∀ (connective : Connective) left right, motive left → motive right →
      motive (connective.build left right)) (tree : Expr) : motive tree := by
  induction tree with
  | atom leaf => exact atom leaf
  | not inner ih => exact not inner ih
  | and left right leftIh rightIh => exact joined .and left right leftIh rightIh
  | or left right leftIh rightIh => exact joined .or left right leftIh rightIh

theorem Expr.atoms_build (connective : Connective) (left right : Expr) :
    (connective.build left right).atoms = left.atoms ++ right.atoms := by
  cases connective <;> rfl

theorem Expr.height_build (connective : Connective) (left right : Expr) :
    (connective.build left right).height = max left.height right.height + 1 := by
  cases connective <;> rfl

class Phrase (Form : Type) where
  tokens : Form → List String
  tree : Form → Expr

namespace Phrase

structure Keyword (word : String) where
  token : String
  spelled : Text.sameFolded token word = true

inductive Condition where
  | bare
  | absent (null : Keyword "NULL")
  | present (negation : Keyword "NOT") (null : Keyword "NULL")
  | compare (operator : Operator) (literal : String)

namespace Condition

def tokens : Condition → List String
  | bare => []
  | absent null => [null.token]
  | present negation null => [negation.token, null.token]
  | compare operator literal => [operator.symbol, literal]

def atom (name : String) : Condition → Atom
  | bare => .bare name
  | absent _ => .absent name
  | present _ _ => .present name
  | compare operator literal => .compare name operator (Value.ofToken literal)

end Condition

structure Leaf where
  name : String
  notOpening : name ≠ "("
  condition : Condition

namespace Leaf

def tokens (leaf : Leaf) : List String :=
  leaf.name :: leaf.condition.tokens

def atom (leaf : Leaf) : Atom :=
  leaf.condition.atom leaf.name

end Leaf

inductive Operand (Group : Type) where
  | group (inner : Group)
  | leaf (written : Leaf)

namespace Operand

variable {Group : Type}

def opening : Operand Group → String
  | group _ => "("
  | leaf written => written.name

instance [Phrase Group] : Phrase (Operand Group) where
  tokens
    | .group inner => "(" :: (Phrase.tokens inner ++ [")"])
    | .leaf written => written.tokens
  tree
    | .group inner => Phrase.tree inner
    | .leaf written => .atom written.atom

end Operand

/-- An operand without NOT must not start with that word. -/
inductive Negation (Group : Type) where
  | negated (word : Keyword "NOT") (operand : Operand Group)
  | plain (operand : Operand Group) (other : Text.sameFolded operand.opening "NOT" = false)

instance {Group : Type} [Phrase Group] : Phrase (Negation Group) where
  tokens
    | .negated word operand => word.token :: Phrase.tokens operand
    | .plain operand _ => Phrase.tokens operand
  tree
    | .negated _ operand => .not (Phrase.tree operand)
    | .plain operand _ => Phrase.tree operand

structure Chain (connective : Connective) (Link : Type) where
  first : Link
  rest : List (Keyword connective.word × Link)

namespace Chain

variable {connective : Connective} {Link : Type} [Phrase Link]

def restTokens (rest : List (Keyword connective.word × Link)) : List String :=
  rest.flatMap fun link => link.1.token :: Phrase.tokens link.2

def joined (left : Expr) (rest : List (Keyword connective.word × Link)) : Expr :=
  rest.foldl (fun tree link => connective.build tree (Phrase.tree link.2)) left

instance : Phrase (Chain connective Link) where
  tokens chain := Phrase.tokens chain.first ++ restTokens chain.rest
  tree chain := joined (Phrase.tree chain.first) chain.rest

@[simp] theorem restTokens_cons (link : Keyword connective.word × Link)
    (rest : List (Keyword connective.word × Link)) :
    restTokens (link :: rest) = link.1.token :: (Phrase.tokens link.2 ++ restTokens rest) := by
  simp [restTokens]

end Chain

abbrev Conjunction (Group : Type) : Type :=
  Chain .and (Negation Group)

abbrev Disjunction (Group : Type) : Type :=
  Chain .or (Conjunction Group)

instance : Phrase Empty where
  tokens := Empty.elim
  tree := Empty.elim

/-- An expression in which groups are nested at most so many levels deep. -/
def Sentence : Nat → Type
  | 0 => Disjunction Empty
  | levels + 1 => Disjunction (Sentence levels)

instance sentence : (levels : Nat) → Phrase (Sentence levels)
  | 0 => inferInstanceAs (Phrase (Disjunction Empty))
  | levels + 1 =>
    have := sentence levels
    inferInstanceAs (Phrase (Disjunction (Sentence levels)))

end Phrase

end Verdict
