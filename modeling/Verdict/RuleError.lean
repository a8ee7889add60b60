/-!
What can be wrong with one rule expression.
-/

namespace Verdict

inductive RuleError where
  | unexpectedEnd
  | expectedToken (expected : String) (found : Option String)
  | unknownOperator (token : String)
  | trailingToken (token : String)
  | nestingTooDeep (limit : Nat)
  | bareBoolean (name : String)
deriving DecidableEq, Repr, Inhabited

namespace RuleError

inductive Kind where
  | structural
  | semantic
deriving DecidableEq, Repr

def Kind.name : Kind → String
  | .structural => "structural"
  | .semantic => "semantic"

def kind : RuleError → Kind
  | .bareBoolean _ => .semantic
  | _ => .structural

def foundText : Option String → String
  | some token => "'" ++ token ++ "'"
  | none => "end of expression"

def message : RuleError → String
  | .unexpectedEnd => "Unexpected end of expression"
  | .expectedToken expected found =>
    "Expected token '" ++ expected ++ "', found " ++ foundText found
  | .unknownOperator token => "Unknown comparison operator '" ++ token ++ "'"
  | .trailingToken token => "Unexpected trailing token '" ++ token ++ "'"
  | .nestingTooDeep limit => "Expression nested deeper than " ++ limit.repr ++ " levels"
  | .bareBoolean name => "Boolean variable '" ++ name ++ "' used without comparison"

end RuleError

end Verdict
