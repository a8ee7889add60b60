import Verdict.Value

/-!
JSON values, what can be wrong with a JSON text, and readers of its characters.
-/

namespace Verdict

inductive Json where
  | null
  | boolean (truth : Bool)
  | integer (number : Int64)
  | float (number : Float)
  | string (text : String)
  | array (items : List Json)
  | object (members : List (String × Json))
deriving Inhabited

namespace Json

inductive Fault where
  | malformed
  /-- The text is JSON so far and holds something else than what is asked for. -/
  | unfit
deriving DecidableEq, Repr, Inhabited

structure Reader (α : Type) where
  run : List Char → Except Fault (α × List Char)
  shortens : ∀ {text value rest}, run text = .ok (value, rest) → rest.length < text.length

def isBlank (char : Char) : Bool :=
  char == ' ' || char == '\n' || char == '\t' || char == '\r'

def skipBlank (text : List Char) : List Char :=
  text.dropWhile isBlank

theorem length_dropWhile_le (test : Char → Bool) (text : List Char) :
    (text.dropWhile test).length ≤ text.length :=
  (List.dropWhile_sublist test).length_le

theorem skipBlank_length_le (text : List Char) : (skipBlank text).length ≤ text.length :=
  length_dropWhile_le isBlank text

end Json

end Verdict
