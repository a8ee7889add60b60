import Verdict.Value

/-!
Comparison of a bound value with a literal. Numbers are ordered; everything else is only equal or
different, and an absent value satisfies no comparison.
-/

namespace Verdict

inductive Operator where
  | equal
  | notEqual
  | greater
  | greaterOrEqual
  | less
  | lessOrEqual
deriving DecidableEq, Repr

namespace Operator

def all : List Operator :=
  [.equal, .notEqual, .greater, .greaterOrEqual, .less, .lessOrEqual]

def symbol : Operator → String
  | .equal => "="
  | .notEqual => "!="
  | .greater => ">"
  | .greaterOrEqual => ">="
  | .less => "<"
  | .lessOrEqual => "<="

def ofToken? (token : String) : Option Operator :=
  all.find? fun operator => operator.symbol == token

theorem ofToken?_eq_some_iff {token : String} {operator : Operator} :
    ofToken? token = some operator ↔ token = operator.symbol := by
  constructor
  · intro found
    exact (by simpa using List.find?_some found : operator.symbol = token).symm
  · rintro rfl
    cases operator <;> decide

/-- The relation of two numbers; what is not a number is only different from every other. -/
def relates (operator : Operator) (left right : Float) : Bool :=
  match operator with
  | .equal => left == right
  | .notEqual => left != right
  | .greater => right < left
  | .greaterOrEqual => right ≤ left
  | .less => left < right
  | .lessOrEqual => left ≤ right

def onEquality (operator : Operator) (equal : Bool) : Bool :=
  match operator with
  | .equal => equal
  | .notEqual => !equal
  | _ => false

end Operator

namespace Value

/-- Truth values compare as such, numbers by size, and all other pairs by their texts. -/
def satisfies (actual : Value) (operator : Operator) (expected : Value) : Bool :=
  match actual, expected with
  | .boolean left, .boolean right => operator.onEquality (left == right)
  | _, _ =>
    match actual.number?, expected.number? with
    | some left, some right => operator.relates left right
    | _, _ => operator.onEquality (actual.text == expected.text)

end Value

def compareValues (actual : Option Value) (operator : Operator) (expected : Option Value) : Bool :=
  match actual, expected with
  | some actual, some expected => actual.satisfies operator expected
  | _, _ => false

end Verdict
