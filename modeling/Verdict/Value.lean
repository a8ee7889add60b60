import Verdict.Decimal.Positional
import Verdict.Text.Case

/-!
Values: what a variable is bound to, and what a literal in a rule denotes.
-/

namespace Verdict

inductive Value where
  | boolean (truth : Bool)
  | integer (number : Int64)
  | float (number : Float)
  | string (text : String)
deriving BEq, Inhabited

namespace Value

def isInteger (number : Int) : Bool :=
  Int64.minValue.toInt ≤ number && number ≤ Int64.maxValue.toInt

def ofInt? (number : Int) : Option Value :=
  if isInteger number then some (.integer (Int64.ofInt number)) else none

def integerText (number : Int64) : String :=
  let digits := String.ofList (Decimal.digits number.toInt.natAbs)
  if number.toInt < 0 then "-" ++ digits else digits

def text : Value → String
  | .boolean true => "true"
  | .boolean false => "false"
  | .integer number => integerText number
  | .float number => Decimal.floatText number
  | .string text => text

def number? : Value → Option Float
  | .integer number => some (Float.ofInt number.toInt)
  | .float number => some number
  | _ => none

def truth? : Value → Option Bool
  | .boolean truth => some truth
  | _ => none

end Value

namespace Literal

def unquoted? : List Char → Option (List Char)
  | '\'' :: rest => if rest.getLast? = some '\'' then some rest.dropLast else none
  | _ => none

/-- A digit at the start, or directly after a minus sign. -/
def looksNumeric : List Char → Bool
  | '-' :: rest => rest.head?.any Char.isDigit
  | token => token.head?.any Char.isDigit

def number? (token : List Char) : Option Value :=
  if token.contains '.' then
    (Decimal.float? token).map .float
  else
    (Decimal.Numeral.integer? token).bind Value.ofInt?

end Literal

/-- The value that a literal token denotes: a truth value in any case, a quoted string, a number, or
else the token as a string. -/
def Value.ofToken (token : String) : Value :=
  if Text.sameFolded token "true" then
    .boolean true
  else if Text.sameFolded token "false" then
    .boolean false
  else
    match Literal.unquoted? token.toList with
    | some inner => .string (String.ofList inner)
    | none =>
      if Literal.looksNumeric token.toList then
        (Literal.number? token.toList).getD (.string token)
      else
        .string token

end Verdict
