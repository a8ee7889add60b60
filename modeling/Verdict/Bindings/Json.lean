import Verdict.Bindings
import Verdict.Failure
import Verdict.Json.Reader

/-!
Tables of bindings written as JSON objects.
-/

namespace Verdict.Bindings

def erase (bindings : Bindings) (name : String) : Bindings :=
  { table := bindings.table.erase name }

/-- Enters one member of a table. The last member of a name counts, and null leaves it unbound. -/
def enter (bindings : Bindings) (name : String) : Option Value → Bindings
  | some value => bindings.insert name value
  | none => bindings.erase name

def valueOfJson? : Json → Except Json.Fault (Option Value)
  | .null => .ok none
  | .boolean truth => .ok (some (.boolean truth))
  | .integer number => .ok (some (.integer number))
  | .float number => .ok (some (.float number))
  | .string text => .ok (some (.string text))
  | .array _ => .error .unfit
  | .object _ => .error .unfit

def jsonMember (levels : Nat) (bindings : Bindings) : Json.Reader Bindings :=
  (Json.Reader.name .kept).andThen fun name =>
    (Json.Reader.char ':').andThen fun _ =>
      ((Json.Reader.value .kept levels).convert valueOfJson?).map (bindings.enter name)

def jsonTable (levels : Nat) : Json.Reader Bindings :=
  Json.Reader.peek fun first =>
    if first = some '{' then
      (Json.Reader.char '{').andThen fun _ => Json.Reader.series '}' (jsonMember levels) empty
    else
      Json.Reader.unfit

def ofJson? (text : String) : Except Failure Bindings :=
  match (jsonTable (Json.maxDepth - 1)).whole text with
  | .ok bindings => .ok bindings
  | .error _ => .error .malformedJson

end Verdict.Bindings
