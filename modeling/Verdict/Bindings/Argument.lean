import Verdict.Failure
import Verdict.Text.Blank
import Verdict.Bindings

/-!
Bindings given as arguments of the form `NAME=LITERAL`.
-/

namespace Verdict.Bindings

/-- The name and the value of an argument. The first equals sign divides them, white space around
both is cut off, and the value is read like a literal of a rule. -/
def ofArgument? (argument : String) : Except Failure (String × Value) :=
  let text := argument.toList
  match text.dropWhile (· != '=') with
  | [] => .error (.invalidBinding ("missing '=' in '" ++ argument ++ "'"))
  | _ :: literal =>
    let name := Text.trim (text.takeWhile (· != '='))
    if name.isEmpty then
      .error (.invalidBinding ("empty name in '" ++ argument ++ "'"))
    else
      .ok (String.ofList name, Value.ofToken (String.ofList (Text.trim literal)))

def insertArguments (bindings : Bindings) : List String → Except Failure Bindings
  | [] => .ok bindings
  | argument :: rest => do
    let (name, value) ← ofArgument? argument
    (bindings.insert name value).insertArguments rest

end Verdict.Bindings
